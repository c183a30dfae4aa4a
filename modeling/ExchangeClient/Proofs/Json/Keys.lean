import ExchangeClient.Proofs.Json.Written
import Mathlib.Data.List.Induction
import Mathlib.Data.List.Nodup

/-!
# Values without repeated keys

What is lost when a value is read is the order of members and all but the last of those with
one key.  In a value without repeated keys (`Json.IsKeyed`) only the order is lost: sorting
permutes the members of each object (`sortMembers_perm`).
-/

namespace ExchangeClient
namespace Json

/-! ## Sorting is permuting -/

section

variable {α : Type} {key : String} {value : α} {ms : List (String × α)}

theorem insertMember_perm (h : key ∉ ms.map Prod.fst) :
    (insertMember key value ms).Perm ((key, value) :: ms) := by
  induction ms with
  | nil => exact .refl _
  | cons m rest ih =>
    obtain ⟨k, v⟩ := m
    rw [List.map_cons, List.mem_cons, not_or] at h
    unfold insertMember
    split
    · exact .refl _
    · rw [if_neg h.1]
      exact ((ih h.2).cons (k, v)).trans (.swap _ _ _)

/-- Members without a repeated key are only put in order. -/
theorem sortMembers_perm (h : (ms.map Prod.fst).Nodup) : (sortMembers ms).Perm ms := by
  induction ms using List.reverseRecOn with
  | nil => exact .refl _
  | append_singleton ms m ih =>
    obtain ⟨k, v⟩ := m
    rw [List.map_append, List.map_singleton, List.nodup_append_comm, List.singleton_append,
      List.nodup_cons] at h
    have hms := ih h.2
    rw [sortMembers_append_singleton]
    have hkey : k ∉ (sortMembers ms).map Prod.fst := by
      rw [(hms.map Prod.fst).mem_iff]
      exact h.1
    exact (insertMember_perm hkey).trans
      ((hms.cons (k, v)).trans (List.perm_append_singleton _ _).symm)

end

/-! ## Values without repeated keys -/

mutual

/-- Whether no object in a value repeats a key. -/
def IsKeyed : Json → Prop
  | .null | .bool _ | .number _ | .string _ => True
  | .array items => ItemsKeyed items
  | .object members => (members.map Prod.fst).Nodup ∧ MembersKeyed members

/-- Whether no object in some items repeats a key. -/
def ItemsKeyed : List Json → Prop
  | [] => True
  | x :: xs => x.IsKeyed ∧ ItemsKeyed xs

/-- Whether no object in the values of some members repeats a key. -/
def MembersKeyed : List (String × Json) → Prop
  | [] => True
  | (_, v) :: rest => v.IsKeyed ∧ MembersKeyed rest

end

theorem itemsKeyed_iff {items : List Json} : ItemsKeyed items ↔ ∀ x ∈ items, x.IsKeyed := by
  induction items with
  | nil => simp [ItemsKeyed]
  | cons x xs ih => rw [ItemsKeyed, ih, List.forall_mem_cons]

theorem membersKeyed_iff {members : List (String × Json)} :
    MembersKeyed members ↔ ∀ m ∈ members, m.2.IsKeyed := by
  induction members with
  | nil => simp [MembersKeyed]
  | cons m rest ih =>
    obtain ⟨k, v⟩ := m
    rw [MembersKeyed, ih, List.forall_mem_cons]

theorem sortedMembers_eq_map (members : List (String × Json)) :
    sortedMembers members = members.map fun m => (m.1, m.2.sorted) := by
  induction members with
  | nil => rfl
  | cons m rest ih =>
    obtain ⟨k, v⟩ := m
    rw [sortedMembers, ih, List.map_cons]

theorem map_fst_sortedMembers (members : List (String × Json)) :
    (sortedMembers members).map Prod.fst = members.map Prod.fst := by
  rw [sortedMembers_eq_map, List.map_map]
  rfl

/-- An object without repeated keys is read with the same members in another order. -/
theorem gathered_perm {members : List (String × Json)} (h : (members.map Prod.fst).Nodup) :
    (gathered members).Perm (members.map fun m => (m.1, m.2.sorted)) := by
  rw [gathered, ← sortedMembers_eq_map]
  exact sortMembers_perm (by rwa [map_fst_sortedMembers])

end Json
end ExchangeClient
