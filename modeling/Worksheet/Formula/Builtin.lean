/-!
# The functions that formulas may call

Every function has a name, which formulas may write in letters of either case, a least number of
arguments and perhaps a greatest one.  Arguments beyond the greatest number are dropped.  The two
functions that read the clock are volatile.
-/

namespace Worksheet

inductive Builtin where
  | sum | product | round | roundUp | roundDown | abs | int | mod | power | sqrt | ceiling | floor
  | sumIf
  | average | count | countA | min | max | median | mode | stdev | variance | large | small
  | percentile | countIf | averageIf
  | upper | lower | len | trim | left | right | mid | concat | concatenate | substitute | find
  | search | rept | proper
  | ifElse | and | or | not | xor | ifs | switch | choose | ifError | ifNa
  | isBlank | isNumber | isText | isError | isNa | na
  | today | now | year | month | day | hour | minute | second | weekday | dateDif | networkDays
  | eDate | eoMonth
  | vLookup | hLookup
  deriving DecidableEq, Repr

/-- How many arguments a function takes, with no upper limit where `most` is `none`. -/
structure Arity where
  least : Nat
  most : Option Nat
  deriving DecidableEq, Repr

namespace Arity

/-- Whether so many arguments are too few. -/
def isMissing (a : Arity) (count : Nat) : Bool :=
  count < a.least

/-- How many of so many arguments are used. -/
def used (a : Arity) (count : Nat) : Nat :=
  match a.most with
  | none => count
  | some most => Nat.min count most

def text (a : Arity) : String :=
  match a.most with
  | none => s!"{a.least}+"
  | some most => if most = a.least then toString most else s!"{a.least}..={most}"

end Arity

namespace Builtin

/-- The name of a function and the numbers of arguments it takes. -/
def signature : Builtin → String × Arity
  | .sum => ("SUM", ⟨0, none⟩)
  | .product => ("PRODUCT", ⟨0, none⟩)
  | .round => ("ROUND", ⟨1, some 2⟩)
  | .roundUp => ("ROUNDUP", ⟨1, some 2⟩)
  | .roundDown => ("ROUNDDOWN", ⟨1, some 2⟩)
  | .abs => ("ABS", ⟨1, some 1⟩)
  | .int => ("INT", ⟨1, some 1⟩)
  | .mod => ("MOD", ⟨2, some 2⟩)
  | .power => ("POWER", ⟨2, some 2⟩)
  | .sqrt => ("SQRT", ⟨1, some 1⟩)
  | .ceiling => ("CEILING", ⟨1, some 2⟩)
  | .floor => ("FLOOR", ⟨1, some 2⟩)
  | .sumIf => ("SUMIF", ⟨2, some 3⟩)
  | .average => ("AVERAGE", ⟨0, none⟩)
  | .count => ("COUNT", ⟨0, none⟩)
  | .countA => ("COUNTA", ⟨0, none⟩)
  | .min => ("MIN", ⟨0, none⟩)
  | .max => ("MAX", ⟨0, none⟩)
  | .median => ("MEDIAN", ⟨0, none⟩)
  | .mode => ("MODE", ⟨0, none⟩)
  | .stdev => ("STDEV", ⟨0, none⟩)
  | .variance => ("VAR", ⟨0, none⟩)
  | .large => ("LARGE", ⟨2, some 2⟩)
  | .small => ("SMALL", ⟨2, some 2⟩)
  | .percentile => ("PERCENTILE", ⟨2, some 2⟩)
  | .countIf => ("COUNTIF", ⟨2, some 2⟩)
  | .averageIf => ("AVERAGEIF", ⟨2, some 3⟩)
  | .upper => ("UPPER", ⟨1, some 1⟩)
  | .lower => ("LOWER", ⟨1, some 1⟩)
  | .len => ("LEN", ⟨1, some 1⟩)
  | .trim => ("TRIM", ⟨1, some 1⟩)
  | .left => ("LEFT", ⟨1, some 2⟩)
  | .right => ("RIGHT", ⟨1, some 2⟩)
  | .mid => ("MID", ⟨3, some 3⟩)
  | .concat => ("CONCAT", ⟨0, none⟩)
  | .concatenate => ("CONCATENATE", ⟨0, none⟩)
  | .substitute => ("SUBSTITUTE", ⟨3, some 4⟩)
  | .find => ("FIND", ⟨2, some 3⟩)
  | .search => ("SEARCH", ⟨2, some 3⟩)
  | .rept => ("REPT", ⟨2, some 2⟩)
  | .proper => ("PROPER", ⟨1, some 1⟩)
  | .ifElse => ("IF", ⟨2, some 3⟩)
  | .and => ("AND", ⟨0, none⟩)
  | .or => ("OR", ⟨0, none⟩)
  | .not => ("NOT", ⟨1, some 1⟩)
  | .xor => ("XOR", ⟨0, none⟩)
  | .ifs => ("IFS", ⟨2, none⟩)
  | .switch => ("SWITCH", ⟨3, none⟩)
  | .choose => ("CHOOSE", ⟨2, none⟩)
  | .ifError => ("IFERROR", ⟨2, some 2⟩)
  | .ifNa => ("IFNA", ⟨2, some 2⟩)
  | .isBlank => ("ISBLANK", ⟨1, some 1⟩)
  | .isNumber => ("ISNUMBER", ⟨1, some 1⟩)
  | .isText => ("ISTEXT", ⟨1, some 1⟩)
  | .isError => ("ISERROR", ⟨1, some 1⟩)
  | .isNa => ("ISNA", ⟨1, some 1⟩)
  | .na => ("NA", ⟨0, some 0⟩)
  | .today => ("TODAY", ⟨0, some 0⟩)
  | .now => ("NOW", ⟨0, some 0⟩)
  | .year => ("YEAR", ⟨1, some 1⟩)
  | .month => ("MONTH", ⟨1, some 1⟩)
  | .day => ("DAY", ⟨1, some 1⟩)
  | .hour => ("HOUR", ⟨1, some 1⟩)
  | .minute => ("MINUTE", ⟨1, some 1⟩)
  | .second => ("SECOND", ⟨1, some 1⟩)
  | .weekday => ("WEEKDAY", ⟨1, some 2⟩)
  | .dateDif => ("DATEDIF", ⟨3, some 3⟩)
  | .networkDays => ("NETWORKDAYS", ⟨2, some 3⟩)
  | .eDate => ("EDATE", ⟨2, some 2⟩)
  | .eoMonth => ("EOMONTH", ⟨2, some 2⟩)
  | .vLookup => ("VLOOKUP", ⟨3, some 4⟩)
  | .hLookup => ("HLOOKUP", ⟨3, some 4⟩)

def name (f : Builtin) : String :=
  f.signature.1

def arity (f : Builtin) : Arity :=
  f.signature.2

/-- Whether the result depends on the clock. -/
def isVolatile : Builtin → Bool
  | .today | .now => true
  | _ => false

/-- All functions in the order of their names. -/
def all : List Builtin :=
  [.abs, .and, .average, .averageIf, .ceiling, .choose, .concat, .concatenate, .count, .countA,
    .countIf, .dateDif, .day, .eDate, .eoMonth, .find, .floor, .hLookup, .hour, .ifElse, .ifError,
    .ifNa, .ifs, .int, .isBlank, .isError, .isNa, .isNumber, .isText, .large, .left, .len, .lower,
    .max, .median, .mid, .min, .minute, .mod, .mode, .month, .na, .networkDays, .not, .now, .or,
    .percentile, .power, .product, .proper, .rept, .right, .round, .roundDown, .roundUp, .search,
    .second, .small, .sqrt, .stdev, .substitute, .sum, .sumIf, .switch, .today, .trim, .upper,
    .vLookup, .variance, .weekday, .xor, .year]

/-- The function of this name, in letters of either case. -/
def ofName? (name : List Char) : Option Builtin :=
  let capitals := String.ofList (name.map Char.toUpper)
  all.find? fun f => f.name = capitals

theorem mem_all (f : Builtin) : f ∈ all := by
  cases f <;> decide

end Builtin

end Worksheet
