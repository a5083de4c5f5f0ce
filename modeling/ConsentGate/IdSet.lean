import ConsentGate.Schema.Scalar

namespace ConsentGate

/-- A set of ids, listed from the least on and each once. -/
abbrev IdSet := List Int

namespace IdSet

def ofList (ids : List Int) : IdSet := ids.eraseDups.mergeSort (· ≤ ·)

def union (a b : IdSet) : IdSet := ofList (a ++ b)

theorem mem_ofList {ids : List Int} {i : Int} : i ∈ ofList ids ↔ i ∈ ids := by
  simp [ofList, List.mem_mergeSort]

theorem mem_union {a b : IdSet} {i : Int} : i ∈ union a b ↔ i ∈ a ∨ i ∈ b := by
  simp [union, mem_ofList]

open Schema in
def read : Json → Reading IdSet
  | .array items => (Reading.eachFrom readInt 0 items).map ofList
  | _ => .fault .notSet

end IdSet

end ConsentGate
