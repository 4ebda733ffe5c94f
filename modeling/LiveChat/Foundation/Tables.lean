import Mathlib.Data.List.AList

/-!
# The rows of a keyed table

What a table holds after a row is entered under a new key, or replaced under an old one,
and what a count over its rows makes of it.
-/

set_option autoImplicit false

namespace LiveChat.Foundation.Tables

universe u v
variable {Key : Type u} [DecidableEq Key] {Row : Type v}

abbrev Table (Key : Type u) (Row : Type v) := AList fun _ : Key => Row

def rows (table : Table Key Row) : List Row := table.entries.map Sigma.snd

variable {table : Table Key Row} {key : Key} {row before : Row}

theorem mem_rows : row ∈ rows table ↔ ∃ key, table.lookup key = some row := by
  simp only [rows, List.mem_map]
  constructor
  · rintro ⟨⟨key, same⟩, member, rfl⟩
    exact ⟨key, AList.mem_lookup_iff.mpr member⟩
  · rintro ⟨key, found⟩
    exact ⟨⟨key, row⟩, AList.mem_lookup_iff.mp found, rfl⟩

theorem rows_insert_new (free : table.lookup key = none) (row : Row) :
    rows (table.insert key row) = row :: rows table := by
  have absent : key ∉ table.entries.keys := AList.lookup_eq_none.mp free
  simp only [rows, AList.insert, List.kinsert, List.kerase_of_notMem_keys absent, List.map_cons]

/-- The row that is replaced, and the others. -/
theorem rows_insert_change (stored : table.lookup key = some before) (row : Row) :
    ∃ others, (rows table).Perm (before :: others) ∧
      rows (table.insert key row) = row :: others := by
  have member : key ∈ table.entries.keys := AList.lookup_isSome.mp (by rw [stored]; rfl)
  obtain ⟨found, front, back, _, whole, erased⟩ := List.exists_of_kerase member
  have same : found = before := by
    have listed : (⟨key, found⟩ : Sigma fun _ : Key => Row) ∈ table.entries := by simp [whole]
    exact Option.some.inj ((AList.mem_lookup_iff.mpr listed).symm.trans stored)
  subst same
  refine ⟨(front ++ back).map Sigma.snd, ?_, ?_⟩
  · simp only [rows, whole, List.map_append, List.map_cons]
    exact List.perm_middle
  · simp only [rows, AList.insert, List.kinsert, erased, List.map_cons]

theorem countP_insert_new (free : table.lookup key = none) (row : Row) (counts : Row → Bool) :
    (rows (table.insert key row)).countP counts =
      (rows table).countP counts + if counts row then 1 else 0 := by
  rw [rows_insert_new free, List.countP_cons]

theorem countP_insert_change (stored : table.lookup key = some before) (row : Row)
    (counts : Row → Bool) :
    (rows (table.insert key row)).countP counts + (if counts before then 1 else 0) =
      (rows table).countP counts + if counts row then 1 else 0 := by
  obtain ⟨others, permuted, changed⟩ := rows_insert_change stored row
  rw [changed, permuted.countP_eq, List.countP_cons, List.countP_cons]
  omega

/-! ## A part of a table -/

/-- The part holds the rows that are kept, in their order. -/
def Part (keeps : Row → Bool) (whole part : Table Key Row) : Prop :=
  part.entries = whole.entries.filter fun entry => keeps entry.2

theorem filter_kerase {entries : List (Sigma fun _ : Key => Row)} (once : entries.NodupKeys)
    (keeps : (Sigma fun _ : Key => Row) → Bool) (key : Key) :
    (entries.kerase key).filter keeps = (entries.filter keeps).kerase key := by
  induction entries with
  | nil => rfl
  | cons entry rest ih =>
      obtain ⟨absent, others⟩ := List.nodupKeys_cons.mp once
      by_cases here : key = entry.1
      · have gone : key ∉ (rest.filter keeps).keys := fun member =>
          absent (here ▸ (List.filter_sublist.map Sigma.fst).subset member)
        rw [List.kerase_cons_eq here]
        by_cases kept : keeps entry = true
        · rw [List.filter_cons_of_pos kept, List.kerase_cons_eq here]
        · rw [List.filter_cons_of_neg kept, List.kerase_of_notMem_keys gone]
      · rw [List.kerase_cons_ne here]
        by_cases kept : keeps entry = true
        · rw [List.filter_cons_of_pos kept, List.filter_cons_of_pos kept, List.kerase_cons_ne here,
            ih others]
        · rw [List.filter_cons_of_neg kept, List.filter_cons_of_neg kept, ih others]

section Part
variable {keeps : Row → Bool} {whole part : Table Key Row}

theorem Part.lookup (same : Part keeps whole part) (key : Key) :
    part.lookup key = (whole.lookup key).filter keeps := by
  refine Option.ext fun row => ?_
  rw [Option.filter_eq_some_iff]
  constructor
  · intro found
    have member := AList.mem_lookup_iff.mp found
    rw [same, List.mem_filter] at member
    exact ⟨AList.mem_lookup_iff.mpr member.1, member.2⟩
  · rintro ⟨found, kept⟩
    refine AList.mem_lookup_iff.mpr ?_
    rw [same, List.mem_filter]
    exact ⟨AList.mem_lookup_iff.mp found, kept⟩

omit [DecidableEq Key] in
theorem Part.rows (same : Part keeps whole part) :
    Tables.rows part = (Tables.rows whole).filter keeps := by
  rw [Tables.rows, same, Tables.rows, List.filter_map]
  rfl

/-- A row that is kept is entered in both. -/
theorem Part.insert (same : Part keeps whole part) (key : Key) (kept : keeps row = true) :
    Part keeps (whole.insert key row) (part.insert key row) := by
  rw [Part, AList.entries_insert, AList.entries_insert, same, ← filter_kerase whole.nodupKeys,
    List.filter_cons]
  exact (if_pos kept).symm

/-- A row that is not kept is entered under a key that the part has nothing under. -/
theorem Part.insert_other (same : Part keeps whole part) {key : Key}
    (free : part.lookup key = none) (dropped : keeps row = false) :
    Part keeps (whole.insert key row) part := by
  have absent : key ∉ part.entries.keys := AList.lookup_eq_none.mp free
  rw [same] at absent
  rw [Part, AList.entries_insert, List.filter_cons_of_neg (by simp [dropped]),
    filter_kerase whole.nodupKeys, List.kerase_of_notMem_keys absent, same]

end Part

end LiveChat.Foundation.Tables
