import QueryGateway.Proofs.Relation.Exactness
import QueryGateway.Proofs.Tree.Change

/-! When a statement that is classified as a read writes nothing.

Extraction and the listing of sections go through the whole of a statement, classification
does not. A read writes nothing if and only if no change in it escapes classification
(`read_writes_nothing_iff`). -/
namespace QueryGateway.Tree

/-- Neither its relations nor its sections tell of a change. -/
structure WritesNothing (s : Statement) (set : RelationSet) : Prop where
  reads : ∀ r ∈ set.references, r.role ≠ .write
  insert : .insert ∉ s.sections
  update : .update ∉ s.sections
  delete : .delete ∉ s.sections

theorem Exact.exists_write_iff {s : Statement} {set : RelationSet} (h : Exact s set) :
    (∃ r ∈ set.references, r.role = .write) ↔
      ∃ path names n, Leads (.statement s) path names (.name .write n) := by
  constructor
  · intro written
    obtain ⟨r, hr, hw⟩ := written
    obtain ⟨path, names, leads, _⟩ := (h.role r hr).mp hw
    exact ⟨path, names, r.name, leads⟩
  · intro named
    obtain ⟨path, names, n, leads⟩ := named
    have occurs : Occurs s path .write n := ⟨names, leads, nofun⟩
    obtain ⟨r, hr, rfl⟩ := List.mem_map.mp ((h.mem_names n).mpr ⟨path, .write, occurs⟩)
    exact ⟨r, hr, (h.role r hr).mpr ⟨path, occurs⟩⟩

theorem Exact.writesNothing_iff {s : Statement} {set : RelationSet} (h : Exact s set) :
    WritesNothing s set ↔ ¬ (Part.statement s).Has Part.changes := by
  rw [has_change_iff, ← h.exists_write_iff]
  constructor
  · intro nothing change
    obtain ⟨reads, insert, update, delete⟩ := nothing
    rcases change with ⟨r, hr, hw⟩ | ⟨sec, hsec, hd⟩
    · exact reads r hr hw
    · cases sec with
      | insert => exact insert hsec
      | update => exact update hsec
      | delete => exact delete hsec
      | _ => cases hd
  · intro none
    exact ⟨fun r hr hw => none (.inl ⟨r, hr, hw⟩), fun hs => none (.inr ⟨_, hs, rfl⟩),
      fun hs => none (.inr ⟨_, hs, rfl⟩), fun hs => none (.inr ⟨_, hs, rfl⟩)⟩

/-- **A read writes nothing if and only if no change in it escapes classification**: no
statement that changes the database where the search for changes has left off, and no
select that creates a table where the search for one has. -/
theorem read_writes_nothing_iff {p : Policy} {s : Statement} {set : RelationSet}
    (read : s.classify = .ok .read) (extracted : p.extract s = .ok set) :
    WritesNothing s set ↔ ¬ ∃ path names c, Leads (.statement s) path names c ∧ Escapes path c := by
  rw [(exact_of_extract extracted).writesNothing_iff, not_iff_not]
  constructor
  · intro change
    obtain ⟨path, names, c, leads, hc⟩ := change
    exact ⟨path, names, c, leads, escapes_of_read read leads hc⟩
  · intro escape
    obtain ⟨path, names, c, leads, hc⟩ := escape
    exact ⟨path, names, c, leads, hc.changes⟩

/-- A read of a table. -/
theorem read_table_writes_nothing :
    WritesNothing (.query ⟨[], false, .table "t", []⟩) ⟨[⟨"t", .read, .own⟩]⟩ ↔
      ¬ ∃ path names c, Leads (.statement (.query ⟨[], false, .table "t", []⟩)) path names c ∧
        Escapes path c := by
  refine read_writes_nothing_iff (p := {}) (by decide) ?_
  have references :
      Statement.references (.query ⟨[], false, .table "t", []⟩) = [⟨"t", .read, .own⟩] := by
    simp [Statement.references, Statement.mentions, Query.mentions, Body.mentions, ctesInOrder,
      queriesMentions, readOf, Scope.binds, boundNames]
  rw [extract_eq_ok, references]
  exact ⟨by decide +kernel, rfl⟩

/-- `SELECT (WITH w AS (INSERT INTO t VALUES (1) RETURNING a) SELECT a FROM w)` -/
def hiddenInsertion : Statement :=
  .query ⟨[], false, .select ⟨[], [⟨[⟨"w", ⟨[], false,
    .modify (.insert ⟨"t", some ⟨[], false, .values [], []⟩, []⟩), []⟩⟩], false,
    .select ⟨[.table "w"], [], none⟩, []⟩], none⟩, []⟩

/-- A read may insert, in an expression. -/
theorem hidden_insertion_is_read :
    ∃ s set, s.classify = .ok .read ∧ ({} : Policy).extract s = .ok set ∧ ¬ WritesNothing s set := by
  have references : hiddenInsertion.references = [⟨"t", .write, .subquery⟩] := by
    simp [hiddenInsertion, Statement.references, Statement.mentions, Query.mentions,
      Body.mentions, Item.mentions, itemsMentions, optionMentions, queriesMentions, ctesInOrder,
      mention, readOf, Scope.binds, boundNames]
  refine ⟨hiddenInsertion, ⟨[⟨"t", .write, .subquery⟩]⟩, rfl, ?_, fun nothing => ?_⟩
  · rw [extract_eq_ok, references]
    exact ⟨by decide +kernel, rfl⟩
  · exact nothing.insert (by decide)

end QueryGateway.Tree
