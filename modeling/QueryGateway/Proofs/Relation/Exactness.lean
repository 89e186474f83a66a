import QueryGateway.Proofs.Relation.Set
import QueryGateway.Proofs.Relation.Walk

/-! What extraction finds in a statement, told by paths.

A row of paths stands behind the references of a statement (`exists_walk_references`). So
the first reference of a kind is the first occurrence of that kind, and what the relation
set collects of the references it collects of the occurrences. -/
namespace QueryGateway.Tree

/-- The occurrence that comes first among those of the names in question. -/
structure FirstOf (s : Statement) (inQuestion : String → Prop) (path : Path) (role : Role)
    (name : String) : Prop where
  occurs : Occurs s path role name
  concerned : inQuestion name
  least : ∀ path' role' name', Occurs s path' role' name' → inQuestion name' →
    (path' = path ∧ role' = role ∧ name' = name) ∨ Precedes path path'

/-- A rejection that reports the first occurrence of a forbidden name. -/
def ReportsFirst (p : Policy) (s : Statement) (e : Rejection) : Prop :=
  ∃ path role name, FirstOf s (fun n => p.forbids n = true) path role name ∧
    e = .forbidden name (if role = .write then 406 else 403)

/-- The set lists the names that occur, each once, by first occurrence. A relation is written
if it is anywhere, and stands in the place of its first occurrence. -/
structure Exact (s : Statement) (set : RelationSet) : Prop where
  nodup : set.names.Nodup
  mem_names : ∀ n, n ∈ set.names ↔ ∃ path role, Occurs s path role n
  ordered : set.names.Pairwise fun m n => ∃ path role, Occurs s path role m ∧
    ∀ path' role', Occurs s path' role' n → Precedes path path'
  role : ∀ r ∈ set.references, (r.role = .write ↔ ∃ path, Occurs s path .write r.name)
  place : ∀ r ∈ set.references, ∃ path role, FirstOf s (· = r.name) path role r.name ∧
    r.place = placeAt .own path

/-! ### The walk through a statement -/

theorem mentioned_root {s : Statement} {path : Path} {r : Reference} :
    Mentioned (.statement s) [] .own path r ↔
      Occurs s path r.role r.name ∧ r.place = placeAt .own path := by
  constructor
  · intro mentioned
    obtain ⟨names, leads, free, hplace⟩ := mentioned
    rw [List.append_nil] at free
    exact ⟨⟨names, leads, free⟩, hplace⟩
  · intro occurs
    obtain ⟨⟨names, leads, free⟩, hplace⟩ := occurs
    refine ⟨names, leads, ?_, hplace⟩
    rwa [List.append_nil]

/-- A walk through a whole statement. -/
abbrev Walks (s : Statement) (walk : List (Path × Reference)) : Prop :=
  Enumerates (.statement s) [] .own walk

theorem exists_walk_references (s : Statement) :
    ∃ walk, Walks s walk ∧ walk.map Prod.snd = s.references :=
  exists_walk (.statement s) [] [] .own fun _ => Iff.rfl

section Walk

variable {s : Statement} {walk : List (Path × Reference)}

theorem Enumerates.occurs (h : Walks s walk) {path : Path} {r : Reference}
    (hm : (path, r) ∈ walk) : Occurs s path r.role r.name :=
  (mentioned_root.mp ((h.mem_iff path r).mp hm)).1

theorem Enumerates.place (h : Walks s walk) {path : Path} {r : Reference}
    (hm : (path, r) ∈ walk) : r.place = placeAt .own path :=
  (mentioned_root.mp ((h.mem_iff path r).mp hm)).2

theorem Enumerates.mem_of_occurs (h : Walks s walk) {path : Path} {role : Role} {name : String}
    (ho : Occurs s path role name) : (path, ⟨name, role, placeAt .own path⟩) ∈ walk :=
  (h.mem_iff path _).mpr (mentioned_root.mpr ⟨ho, rfl⟩)

/-- An occurrence of a kind is a reference of the kind. -/
theorem Enumerates.exists_occurs (h : Walks s walk) (kind : Role → String → Prop) :
    (∃ path role name, Occurs s path role name ∧ kind role name) ↔
      ∃ r ∈ walk.map Prod.snd, kind r.role r.name := by
  constructor
  · intro found
    obtain ⟨path, role, name, ho, hk⟩ := found
    exact ⟨_, List.mem_map_of_mem (h.mem_of_occurs ho), hk⟩
  · intro found
    obtain ⟨r, hr, hk⟩ := found
    obtain ⟨⟨path, _⟩, hm, rfl⟩ := List.mem_map.mp hr
    exact ⟨path, _, _, h.occurs hm, hk⟩

/-- The first reference to a name in question is the first such occurrence. -/
theorem Enumerates.firstOf_find? (h : Walks s walk) (ok : String → Bool) {r : Reference}
    (hr : (walk.map Prod.snd).find? (fun r => ok r.name) = some r) :
    ∃ path, FirstOf s (fun n => ok n = true) path r.role r.name ∧ r.place = placeAt .own path := by
  rw [List.find?_map] at hr
  obtain ⟨⟨path, x⟩, hfind, hx⟩ := Option.map_eq_some_iff.mp hr
  obtain rfl : x = r := hx
  obtain ⟨hok, before, after, rfl, hbefore⟩ := List.find?_eq_some_iff_append.mp hfind
  have there : (path, x) ∈ before ++ (path, x) :: after :=
    List.mem_append_right _ (List.mem_cons_self ..)
  refine ⟨path, ⟨h.occurs there, hok, ?_⟩, h.place there⟩
  intro path' role' name' ho hok'
  rcases List.mem_append.mp (h.mem_of_occurs ho) with hm | hm
  · have := hbefore _ hm
    simp [hok'] at this
  · rcases List.mem_cons.mp hm with hm | hm
    · obtain ⟨rfl, rfl⟩ := Prod.mk.inj hm
      exact .inl ⟨rfl, rfl, rfl⟩
    · have later := (List.pairwise_append.mp h.ordered).2.1
      exact .inr ((List.pairwise_cons.mp later).1 _ hm)

/-- A name whose reference stands before every reference to another occurs before it. -/
theorem Enumerates.occurs_before (h : Walks s walk) {m n : String} (hne : m ≠ n)
    (hmn : RelationSet.Earlier (walk.map Prod.snd) m n) :
    ∃ path role, Occurs s path role m ∧
      ∀ path' role', Occurs s path' role' n → Precedes path path' := by
  obtain ⟨before, r, after, hsplit, hm, hbefore⟩ := hmn
  obtain ⟨first, later, rfl, rfl, hlater⟩ := List.map_eq_append_iff.mp hsplit
  obtain ⟨⟨path, _⟩, rest, rfl, rfl, _⟩ := List.map_eq_cons_iff.mp hlater
  have ho := h.occurs (List.mem_append_right first (List.mem_cons_self ..))
  rw [hm] at ho
  refine ⟨path, _, ho, fun path' role' hn => ?_⟩
  rcases List.mem_append.mp (h.mem_of_occurs hn) with hmem | hmem
  · exact absurd rfl (hbefore _ (List.mem_map_of_mem hmem))
  · have ordered := List.pairwise_cons.mp (List.pairwise_append.mp h.ordered).2.1
    rcases List.mem_cons.mp hmem with heq | hmem
    · obtain ⟨_, rfl⟩ := Prod.mk.inj heq
      exact absurd hm.symm hne
    · exact ordered.1 _ hmem

theorem Enumerates.exact (h : Walks s walk) :
    Exact s (.ofList (walk.map Prod.snd)) := by
  have collects := RelationSet.collects_ofList (walk.map Prod.snd)
  constructor
  · exact collects.nodup
  · intro n
    rw [collects.mem_names, ← h.exists_occurs fun _ name => name = n]
    simp
  · exact (collects.nodup.and collects.ordered).imp fun ⟨hne, hmn⟩ => h.occurs_before hne hmn
  · intro r hr
    rw [collects.role r hr, ← h.exists_occurs fun role name => name = r.name ∧ role = .write]
    simp
  · intro r hr
    obtain ⟨x, hx, hplace⟩ := Option.map_eq_some_iff.mp (collects.place r hr)
    have hname : x.name = r.name := by simpa using List.find?_some hx
    obtain ⟨path, hfirst, hp⟩ := h.firstOf_find? (fun n => decide (n = r.name)) hx
    simp only [decide_eq_true_eq, hname] at hfirst
    exact ⟨path, x.role, hfirst, hplace.symm.trans hp⟩

end Walk

/-! ### Extraction -/

theorem extract_eq_error {p : Policy} {s : Statement} {e : Rejection} :
    p.extract s = .error e ↔ ∃ r, s.references.find? (p.forbids ·.name) = some r ∧
      e = .forbidden r.name (if r.role = .write then 406 else 403) := by
  have code (role : Role) : Policy.codeFor role = if role = .write then 406 else 403 := by
    cases role <;> rfl
  rw [Policy.extract]
  cases s.references.find? (p.forbids ·.name) with
  | none => simp
  | some r => simp [code, eq_comm]

theorem extract_eq_ok {p : Policy} {s : Statement} {set : RelationSet} :
    p.extract s = .ok set ↔
      s.references.find? (p.forbids ·.name) = none ∧ set = .ofList s.references := by
  rw [Policy.extract]
  cases s.references.find? (p.forbids ·.name) with
  | none => simp [eq_comm]
  | some r => simp

theorem exact_of_extract {p : Policy} {s : Statement} {set : RelationSet}
    (h : p.extract s = .ok set) : Exact s set := by
  obtain ⟨walk, hwalk, hmap⟩ := exists_walk_references s
  obtain ⟨_, rfl⟩ := extract_eq_ok.mp h
  rw [← hmap]
  exact hwalk.exact

/-- A relation of an exact set occurs in the role that it has there. -/
theorem Exact.exists_occurs {s : Statement} {set : RelationSet} (h : Exact s set) {r : Reference}
    (hr : r ∈ set.references) : ∃ path, Occurs s path r.role r.name := by
  cases written : r.role with
  | write => exact (h.role r hr).mp written
  | read =>
    obtain ⟨path, role, occurs⟩ := (h.mem_names r.name).mp (List.mem_map_of_mem hr)
    cases role with
    | read => exact ⟨path, occurs⟩
    | write =>
      have := (h.role r hr).mpr ⟨path, occurs⟩
      rw [written] at this
      cases this

/-- **Extraction is exact**: it fails if and only if a forbidden name occurs, and reports the
first that does; otherwise it gives exactly the names that occur. -/
theorem extract_exact (p : Policy) (s : Statement) :
    ((∃ e, p.extract s = .error e) ↔
      ∃ path role name, Occurs s path role name ∧ p.forbids name = true) ∧
    (∀ e, p.extract s = .error e → ReportsFirst p s e) ∧
    ∀ set, p.extract s = .ok set → Exact s set := by
  obtain ⟨walk, h, hmap⟩ := exists_walk_references s
  refine ⟨?_, ?_, fun set => exact_of_extract⟩
  · rw [h.exists_occurs fun _ name => p.forbids name = true, hmap]
    constructor
    · intro failed
      obtain ⟨e, he⟩ := failed
      obtain ⟨r, hr, _⟩ := extract_eq_error.mp he
      have forbidden : p.forbids r.name = true := by simpa using List.find?_some hr
      exact ⟨r, List.mem_of_find?_eq_some hr, forbidden⟩
    · intro found
      obtain ⟨r, hr, hf⟩ := found
      have some : (s.references.find? (p.forbids ·.name)).isSome = true :=
        List.find?_isSome.mpr ⟨r, hr, hf⟩
      obtain ⟨x, hx⟩ := Option.isSome_iff_exists.mp some
      exact ⟨_, extract_eq_error.mpr ⟨x, hx, rfl⟩⟩
  · intro e he
    obtain ⟨r, hr, rfl⟩ := extract_eq_error.mp he
    rw [← hmap] at hr
    obtain ⟨path, hfirst, _⟩ := h.firstOf_find? p.forbids hr
    exact ⟨path, r.role, r.name, hfirst, rfl⟩

/-- `WITH w AS (TABLE a) TABLE W` reads `a` alone. -/
example : ({} : Policy).extract
    (.query ⟨[⟨"w", ⟨[], false, .table "a", []⟩⟩], false, .table "W", []⟩) =
      .ok ⟨[⟨"a", .read, .subquery⟩]⟩ := by
  cbv

/-! ### Single relations -/

/-- Extraction does not miss a relation in a role: it reports it as forbidden, or finds it,
and as written if it is to be written. -/
def Catches (p : Policy) (s : Statement) (role : Role) (name : String) : Prop :=
  (∃ code, p.extract s = .error (.forbidden name code)) ∨
    ∃ set, p.extract s = .ok set ∧ ∃ r ∈ set.references, r.name = name ∧
      (role = .write → r.role = .write)

section Catching

variable {p : Policy} {s : Statement} {role : Role} {name : String}

/-- What is caught is mentioned. -/
theorem Catches.exists_reference (h : Catches p s role name) :
    ∃ r ∈ s.references, r.name = name := by
  rcases h with ⟨code, failed⟩ | ⟨set, extracted, r, hr, rfl, _⟩
  · obtain ⟨r, hr, same⟩ := extract_eq_error.mp failed
    cases same
    exact ⟨r, List.mem_of_find?_eq_some hr, rfl⟩
  · obtain ⟨_, rfl⟩ := extract_eq_ok.mp extracted
    have collects := RelationSet.collects_ofList s.references
    have named : r.name ∈ (RelationSet.ofList s.references).names := List.mem_map_of_mem hr
    exact (collects.mem_names r.name).mp named

/-- A relation that is all that a statement mentions is caught. -/
theorem catches_of_references {place : Place} (h : s.references = [⟨name, role, place⟩])
    (p : Policy) : Catches p s role name := by
  cases extracted : p.extract s with
  | error e =>
    obtain ⟨r, hr, rfl⟩ := extract_eq_error.mp extracted
    have found := List.mem_of_find?_eq_some hr
    rw [h, List.mem_singleton] at found
    subst found
    exact .inl ⟨_, extracted⟩
  | ok set =>
    have made : set.references = [⟨name, role, place⟩] := by
      obtain ⟨_, rfl⟩ := extract_eq_ok.mp extracted
      rw [h]
      rfl
    exact .inr ⟨set, extracted, _, made ▸ List.mem_singleton.mpr rfl, rfl, id⟩

/-- A relation that occurs is checked, and found unless extraction fails. -/
theorem extract_of_occurs {path : Path} (h : Occurs s path role name) (p : Policy) :
    (p.forbids name = true → ∃ e, p.extract s = .error e) ∧
      ∀ set, p.extract s = .ok set →
        ∃ r ∈ set.references, r.name = name ∧ (role = .write → r.role = .write) := by
  constructor
  · intro forbidden
    obtain ⟨walk, hwalk, hmap⟩ := exists_walk_references s
    have there : ∃ r ∈ s.references, p.forbids r.name = true := by
      rw [← hmap]
      exact ⟨_, List.mem_map_of_mem (hwalk.mem_of_occurs h), forbidden⟩
    have some := List.find?_isSome.mpr there
    obtain ⟨r, hr⟩ := Option.isSome_iff_exists.mp some
    exact ⟨_, extract_eq_error.mpr ⟨r, hr, rfl⟩⟩
  · intro set extracted
    have exact := exact_of_extract extracted
    have listed := (exact.mem_names name).mpr ⟨path, role, h⟩
    obtain ⟨r, hr, rfl⟩ := List.mem_map.mp listed
    exact ⟨r, hr, rfl, fun written => (exact.role r hr).mpr ⟨path, written ▸ h⟩⟩

end Catching

/-- Extraction heeds a relation: it fails if the relation is forbidden, and otherwise has it in
the set that it gives. -/
def Heeds (p : Policy) (s : Statement) (name : String) : Prop :=
  (p.forbids name = true → ∃ e, p.extract s = .error e) ∧
    ∀ set, p.extract s = .ok set → name ∈ set.names

section Heeding

variable {p : Policy} {s : Statement} {name : String}

/-- A relation is heeded exactly if it is mentioned, or a forbidden one is. -/
theorem heeds_iff :
    Heeds p s name ↔ ∃ r ∈ s.references, r.name = name ∨ p.forbids r.name = true := by
  cases extracted : p.extract s with
  | error e =>
    obtain ⟨r, found, _⟩ := extract_eq_error.mp extracted
    have forbidden : p.forbids r.name = true := by simpa using List.find?_some found
    refine iff_of_true ⟨fun _ => ⟨e, extracted⟩, fun set given => ?_⟩
      ⟨r, List.mem_of_find?_eq_some found, .inr forbidden⟩
    rw [extracted] at given
    cases given
  | ok set =>
    obtain ⟨free, rfl⟩ := extract_eq_ok.mp extracted
    have allowed : ∀ r ∈ s.references, p.forbids r.name ≠ true := by
      simpa using List.find?_eq_none.mp free
    have listed := (RelationSet.collects_ofList s.references).mem_names name
    constructor
    · intro heeds
      obtain ⟨r, hr, named⟩ := listed.mp (heeds.2 _ extracted)
      exact ⟨r, hr, .inl named⟩
    · intro found
      obtain ⟨r, hr, named | forbidden⟩ := found
      · refine ⟨fun forbidden => absurd (named ▸ forbidden) (allowed r hr), fun set given => ?_⟩
        obtain ⟨_, rfl⟩ := extract_eq_ok.mp given
        exact listed.mpr ⟨r, hr, named⟩
      · exact absurd forbidden (allowed r hr)

theorem heeds_of_occurs {path : Path} {role : Role} (h : Occurs s path role name) (p : Policy) :
    Heeds p s name := by
  obtain ⟨checked, found⟩ := extract_of_occurs h p
  refine ⟨checked, fun set extracted => ?_⟩
  obtain ⟨r, hr, rfl, _⟩ := found set extracted
  exact List.mem_map_of_mem hr

end Heeding

end QueryGateway.Tree
