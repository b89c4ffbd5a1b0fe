import Mathlib.Data.List.Nodup

/-! Go's built-in `map`, as the server uses it: lookups that read a missing key
as the zero value, assignment, `delete`, `len` and `range`. The live entries are
kept as an association list whose keys never repeat. Go leaves the iteration
order of a map unspecified; the list fixes one order the runtime may pick. -/
namespace Ergo.Irc

/-- A Go `map[K]V`: one entry per live key. -/
structure GoMap (K V : Type) where
  entries : List (K × V)
  keys_nodup : (entries.map Prod.fst).Nodup

namespace GoMap

variable {K V : Type} [DecidableEq K]

/-- `make(map[K]V)`. -/
def empty : GoMap K V := ⟨[], List.nodup_nil⟩

/-- `m[k]`, with a missing key read as `none` (Go's zero value, a nil pointer). -/
def get (m : GoMap K V) (k : K) : Option V :=
  (m.entries.find? (fun entry => entry.1 = k)).map Prod.snd

private theorem keys_filter_nodup (m : GoMap K V) (k : K) :
    ((m.entries.filter (fun entry => entry.1 ≠ k)).map Prod.fst).Nodup :=
  m.keys_nodup.sublist ((List.filter_sublist _).map _)

/-- `delete(m, k)`. -/
def delete (m : GoMap K V) (k : K) : GoMap K V :=
  ⟨m.entries.filter (fun entry => entry.1 ≠ k), keys_filter_nodup m k⟩

/-- `m[k] = v`. The entry moves to the end of the iteration order, which Go
leaves free. -/
def set (m : GoMap K V) (k : K) (v : V) : GoMap K V :=
  ⟨m.entries.filter (fun entry => entry.1 ≠ k) ++ [(k, v)], by
    rw [List.map_append, List.nodup_append]
    refine ⟨keys_filter_nodup m k, List.nodup_singleton _, ?_⟩
    intro key member same
    obtain ⟨entry, kept, rfl⟩ := List.mem_map.mp member
    simp only [List.map_cons, List.map_nil, List.mem_singleton] at same
    simp only [List.mem_filter, same, ne_eq, not_true_eq_false, decide_False] at kept
    exact Bool.false_ne_true kept.2⟩

/-- `len(m)`. -/
def len (m : GoMap K V) : Nat := m.entries.length

@[simp] theorem get_empty (k : K) : (empty : GoMap K V).get k = none := rfl

theorem get_eq_some_iff (m : GoMap K V) (k : K) (v : V) :
    m.get k = some v ↔ (k, v) ∈ m.entries := by
  obtain ⟨entries, nodup⟩ := m
  simp only [get]
  induction entries with
  | nil => simp
  | cons entry rest ih =>
    obtain ⟨key, value⟩ := entry
    simp only [List.map_cons, List.nodup_cons, List.mem_map] at nodup
    by_cases same : key = k
    · subst same
      simp only [List.find?_cons, decide_True, Option.map_some', Option.some.injEq,
        List.mem_cons, Prod.mk.injEq, true_and]
      refine ⟨fun h => Or.inl h.symm, ?_⟩
      rintro (h | h)
      · exact h.symm
      · exact absurd ⟨_, h, rfl⟩ nodup.1
    · simp only [List.find?_cons, same, decide_False, List.mem_cons, Prod.mk.injEq,
        Ne.symm same, false_and, false_or]
      exact ih nodup.2

@[simp] theorem get_delete (m : GoMap K V) (k k' : K) :
    (m.delete k).get k' = if k' = k then none else m.get k' := by
  apply Option.ext
  intro v
  rw [Option.mem_def, get_eq_some_iff]
  split
  · simp_all [delete]
  · simp_all [delete, get_eq_some_iff]

@[simp] theorem get_set (m : GoMap K V) (k k' : K) (v : V) :
    (m.set k v).get k' = if k' = k then some v else m.get k' := by
  apply Option.ext
  intro w
  rw [Option.mem_def, get_eq_some_iff]
  split
  · simp_all [set, eq_comm]
  · simp_all [set, get_eq_some_iff]

end GoMap

end Ergo.Irc
