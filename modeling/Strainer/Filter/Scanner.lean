import Strainer.Filter.Operator

/-!
# Token readers

The readers of the filter scanner, each taking the text at the first character of its token
and returning the token and the text after it:

* an operator run is the longest prefix of operator symbols (`!=><&|`);
* a number is the longest prefix of ASCII digits;
* a delimited token (a string between quotes, a date between `#`, a field name between `[` and
  `]`) runs from after the opening character to the next closing one, which is dropped; without
  a closing character it runs to the end of the text. There are no escapes.
-/

namespace Strainer.Filter.Scanner

/-- The longest prefix of operator symbols, and the rest. -/
def operatorRun (cs : List Char) : List Char × List Char :=
  (cs.takeWhile isOperatorSymbol, cs.dropWhile isOperatorSymbol)

/-- The longest prefix of ASCII digits, and the rest. -/
def digitRun (cs : List Char) : List Char × List Char :=
  (cs.takeWhile Char.isDigit, cs.dropWhile Char.isDigit)

/-- The text up to the next `close` (excluded) and the text after that `close`; the whole text
and nothing when there is none. -/
def delimited (close : Char) (cs : List Char) : List Char × List Char :=
  (cs.takeWhile (· ≠ close), (cs.dropWhile (· ≠ close)).drop 1)

/-- The value of an ASCII digit string. -/
def digitsValue (ds : List Char) : Nat :=
  ds.foldl (fun acc c => 10 * acc + (c.toNat - '0'.toNat)) 0

theorem operatorRun_append (cs : List Char) :
    (operatorRun cs).1 ++ (operatorRun cs).2 = cs :=
  List.takeWhile_append_dropWhile

theorem digitRun_append (cs : List Char) : (digitRun cs).1 ++ (digitRun cs).2 = cs :=
  List.takeWhile_append_dropWhile

end Strainer.Filter.Scanner
