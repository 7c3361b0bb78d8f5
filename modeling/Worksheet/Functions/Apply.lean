import Worksheet.Functions.Dates
import Worksheet.Functions.Inspection
import Worksheet.Functions.Logic
import Worksheet.Functions.Lookup
import Worksheet.Functions.Statistics
import Worksheet.Functions.Texts

/-!
# Applying functions

What each function does with its arguments.  The clock matters to the volatile functions alone, and
only `IF` can fail.
-/

namespace Worksheet.Builtin

open Functions

/-- The value of a call; a failure reads as `#ERROR!`. -/
def value (now : Moment) (args : List Argument) : Builtin → Value
  | .sum => Functions.sum args
  | .product => Functions.product args
  | .round => settle (roundBy Number.round args)
  | .roundUp => settle (roundBy awayFromZero args)
  | .roundDown => settle (roundBy Number.trunc args)
  | .abs => settle (Functions.abs args)
  | .int => settle (Functions.int args)
  | .mod => settle (Functions.mod args)
  | .power => settle (Functions.power args)
  | .sqrt => settle (Functions.sqrt args)
  | .ceiling => settle (Functions.ceiling args)
  | .floor => settle (Functions.floor args)
  | .sumIf => Functions.sumIf args
  | .average => Functions.average args
  | .count => Functions.count args
  | .countA => Functions.countA args
  | .min => Functions.min args
  | .max => Functions.max args
  | .median => Functions.median args
  | .mode => settle (Functions.mode args)
  | .stdev => settle (Functions.stdev args)
  | .variance => settle (Functions.variance args)
  | .large => settle (Functions.large args)
  | .small => settle (Functions.small args)
  | .percentile => settle (Functions.percentile args)
  | .countIf => Functions.countIf args
  | .averageIf => settle (Functions.averageIf args)
  | .upper => settle (Functions.upper args)
  | .lower => settle (Functions.lower args)
  | .len => settle (Functions.len args)
  | .trim => settle (Functions.trim args)
  | .left => settle (Functions.left args)
  | .right => settle (Functions.right args)
  | .mid => settle (Functions.mid args)
  | .concat => Functions.concat args
  | .concatenate => Functions.concat args
  | .substitute => settle (Functions.substitute args)
  | .find => settle (Functions.find args)
  | .search => settle (Functions.search args)
  | .rept => settle (Functions.rept args)
  | .proper => settle (Functions.proper args)
  | .ifElse =>
    match Functions.ifElse args with
    | .ok v => v
    | .error _ => .error .failed
  | .and => Functions.and args
  | .or => Functions.or args
  | .not => Functions.not args
  | .xor => Functions.xor args
  | .ifs => settle (Functions.ifs args)
  | .switch => settle (Functions.switch args)
  | .choose => settle (Functions.choose args)
  | .ifError => Functions.ifError args
  | .ifNa => Functions.ifNa args
  | .isBlank => inspect isEmpty args
  | .isNumber => inspect Functions.isNumber args
  | .isText => inspect Functions.isText args
  | .isError => inspect Value.isError args
  | .isNa => inspect isNotAvailable args
  | .na => .error .notAvailable
  | .today => Functions.today now
  | .now => Functions.now now
  | .year => settle (partOf (fun m => m.date.year) args)
  | .month => settle (partOf (fun m => m.date.month) args)
  | .day => settle (partOf (fun m => m.date.day) args)
  | .hour => settle (partOf (fun m => m.hour.val) args)
  | .minute => settle (partOf (fun m => m.minute.val) args)
  | .second => settle (partOf (fun m => m.second.val) args)
  | .weekday => settle (Functions.weekday args)
  | .dateDif => settle (Functions.dateDif args)
  | .networkDays => settle (Functions.networkDays args)
  | .eDate => settle (Functions.eDate args)
  | .eoMonth => settle (Functions.eoMonth args)
  | .vLookup => settle (Functions.vLookup args)
  | .hLookup => settle (Functions.hLookup args)

/-- The value of a call of a function on arguments of the right number. -/
def apply (f : Builtin) (now : Moment) (args : List Argument) : Except FormulaError Value :=
  match f with
  | .ifElse => Functions.ifElse args
  | f => .ok (f.value now args)

theorem apply_of_ne {f : Builtin} (hf : f ≠ .ifElse) (now : Moment) (args : List Argument) :
    f.apply now args = .ok (f.value now args) := by
  cases f with
  | ifElse => exact absurd rfl hf
  | _ => rfl

end Worksheet.Builtin
