/-!
Partitions of a list by a key: one class for each key that occurs, in rising order of the keys,
and in each class the members in the order of the list.
-/

namespace SignalReplay.Partition

def insert [Ord κ] (key : κ) (member : α) : List (κ × List α) → List (κ × List α)
  | [] => [(key, [member])]
  | (other, members) :: rest =>
    match compare key other with
    | .lt => (key, [member]) :: (other, members) :: rest
    | .eq => (other, member :: members) :: rest
    | .gt => (other, members) :: insert key member rest

def classes [Ord κ] (keyOf : α → κ) (list : List α) : List (κ × List α) :=
  list.foldr (fun member classes => insert (keyOf member) member classes) []

example : classes (· % 3) [4, 3, 8, 1] = [(0, [3]), (1, [4, 1]), (2, [8])] := by decide

end SignalReplay.Partition
