/-!
Lists of names, as records and commands give them: no name may be given twice.
-/

namespace SignalReplay.Text

def repeats : List String → Bool
  | [] => false
  | name :: rest => rest.contains name || repeats rest

example : repeats ["open", "close", "open"] = true := by decide

@[simp]
theorem repeats_eq_false_iff {names : List String} :
    repeats names = false ↔ names.Nodup := by
  induction names with
  | nil => simp [repeats]
  | cons name rest induction => simp [repeats, induction]

end SignalReplay.Text
