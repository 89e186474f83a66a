import QueryGateway.Config.Basic

/-! What is shown of the database's address.

The first `://` of an address ends its scheme, and the last `@` behind it ends the credentials. A
`://` overlaps with no other one, so the scheme ends where it is meant to; from there on nothing
that stands before the last `@` has a part in what is shown, whatever marks it holds
(`displayTarget_hides_credentials`). -/
namespace QueryGateway.Config

namespace Database

/-! ### Behind the scheme -/

/-- The mark that ends a scheme. -/
def schemeMark : List Char := [':', '/', '/']

theorem schemeMark_eq : "://".toList = schemeMark := rfl

/-- The first mark behind text without one is the one that was put there. -/
theorem afterScheme?_append {scheme : List Char} (unmarked : ¬ schemeMark <:+: scheme)
    (rest : List Char) : afterScheme? (scheme ++ schemeMark ++ rest) = some rest := by
  induction scheme with
  | nil => rfl
  | cons c scheme ih =>
    have later : ¬ schemeMark <:+: scheme := fun h => unmarked (List.infix_cons h)
    rw [List.cons_append, List.cons_append, afterScheme?]
    · exact ih later
    -- a mark that began at `c` would lie in the scheme, since no mark begins inside another
    · rintro behind rfl slashes
      match scheme with
      | [] => cases slashes
      | [_] => cases slashes
      | a :: b :: scheme =>
        cases slashes
        exact unmarked (List.prefix_append schemeMark scheme).isInfix

/-- Text with a mark has a first one. -/
theorem exists_first_mark {url : List Char} (marked : schemeMark <:+: url) :
    ∃ scheme rest, url = scheme ++ schemeMark ++ rest ∧ ¬ schemeMark <:+: scheme := by
  induction url with
  | nil => cases List.eq_nil_of_infix_nil marked
  | cons c url ih =>
    by_cases here : schemeMark <+: c :: url
    · obtain ⟨rest, whole⟩ := here
      exact ⟨[], rest, whole.symm, fun h => by cases List.eq_nil_of_infix_nil h⟩
    · obtain ⟨scheme, rest, rfl, unmarked⟩ := ih ((List.infix_cons_iff.mp marked).resolve_left here)
      refine ⟨c :: scheme, rest, rfl, fun h => ?_⟩
      rcases List.infix_cons_iff.mp h with first | h
      · refine here (first.trans ?_)
        rw [List.append_assoc]
        exact List.prefix_append (c :: scheme) _
      · exact unmarked h

/-! ### Behind the credentials -/

/-- What stands before an `@` has no part in what follows the last one. -/
theorem afterCredentials_append (front tail : List Char) :
    afterCredentials (front ++ '@' :: tail) = afterCredentials tail := by
  have turned : (front ++ '@' :: tail).reverse = tail.reverse ++ '@' :: front.reverse := by simp
  have stops : ('@' :: front.reverse).takeWhile (· ≠ '@') = [] := rfl
  rw [afterCredentials, afterCredentials, turned, List.takeWhile_append, stops, List.append_nil]
  split
  · rename_i whole
    exact congrArg _ ((List.takeWhile_prefix _).eq_of_length whole).symm
  · rfl

theorem at_notMem_afterCredentials (cs : List Char) : '@' ∉ afterCredentials cs := by
  rw [afterCredentials, List.mem_reverse]
  intro h
  simpa using List.all_eq_true.mp List.all_takeWhile _ h

/-- What follows the last `@` is all that there is, or it follows an `@`. -/
theorem eq_or_eq_append_afterCredentials (cs : List Char) :
    cs = afterCredentials cs ∨ ∃ front, cs = front ++ '@' :: afterCredentials cs := by
  have parts : cs = (cs.reverse.dropWhile (· ≠ '@')).reverse ++ afterCredentials cs := by
    rw [afterCredentials, ← List.reverse_append, List.takeWhile_append_dropWhile,
      List.reverse_reverse]
  have stops := List.head?_dropWhile_not (· ≠ '@') cs.reverse
  cases behind : cs.reverse.dropWhile (· ≠ '@') with
  | nil =>
    rw [behind] at parts
    exact .inl parts
  | cons c front =>
    rw [behind] at parts stops
    obtain rfl : c = '@' := by simpa using stops
    refine .inr ⟨front.reverse, ?_⟩
    rwa [List.reverse_cons, List.append_assoc] at parts

theorem afterCredentials_suffix (cs : List Char) : afterCredentials cs <:+ cs := by
  rcases eq_or_eq_append_afterCredentials cs with all | ⟨front, whole⟩
  · exact all ▸ List.suffix_refl _
  · exact ⟨front ++ ['@'], by rw [List.append_assoc]; exact whole.symm⟩

/-! ### Targets -/

theorem targetOf_append {scheme : List Char} (unmarked : ¬ schemeMark <:+: scheme)
    (rest : List Char) : targetOf (scheme ++ schemeMark ++ rest) = afterCredentials rest := by
  rw [targetOf, afterScheme?_append unmarked]

/-- Credentials in an address have no part in its target. -/
theorem targetOf_credentials {scheme : List Char} (unmarked : ¬ schemeMark <:+: scheme)
    (credentials tail : List Char) :
    targetOf (scheme ++ schemeMark ++ (credentials ++ '@' :: tail)) = afterCredentials tail := by
  rw [targetOf_append unmarked, afterCredentials_append]

/-- The address to connect to, from the configuration or from the environment, has a scheme,
credentials and what follows them. -/
def IsAt (d : Database) (env : Environment) (scheme credentials tail : String) : Prop :=
  d.connectionUrl env = scheme ++ "://" ++ credentials ++ "@" ++ tail

theorem displayTarget_of_isAt {d : Database} {env : Environment} {scheme credentials tail : String}
    (unmarked : ¬ "://".toList <:+: scheme.toList) (address : d.IsAt env scheme credentials tail) :
    d.displayTarget env = String.ofList (afterCredentials tail.toList) := by
  have whole : (d.connectionUrl env).toList =
      scheme.toList ++ schemeMark ++ (credentials.toList ++ '@' :: tail.toList) := by
    rw [address]
    simp [← schemeMark_eq]
  rw [displayTarget, whole, targetOf_credentials unmarked]

end Database

open Database

/-- **What is shown of the database's address does not depend on the credentials.** Two databases
whose addresses differ in nothing else are shown alike, also in the summary of a configuration;
and of an address with a scheme, the end of what follows the scheme is shown that has no `@`: all
of it, or what follows its last `@`. -/
theorem displayTarget_hides_credentials :
    (∀ (scheme tail : String), ¬ "://".toList <:+: scheme.toList →
      ∀ (p₁ p₂ : String) (d₁ d₂ : Database) (env₁ env₂ : Environment),
        d₁.IsAt env₁ scheme p₁ tail → d₂.IsAt env₂ scheme p₂ tail →
        d₁.displayTarget env₁ = d₂.displayTarget env₂ ∧
        ∀ c : Config, d₁.urlFromEnvironment env₁ = d₂.urlFromEnvironment env₂ →
          summary { c with database := d₁ } env₁ = summary { c with database := d₂ } env₂) ∧
    ∀ (d : Database) (env : Environment), "://".toList <:+: (d.connectionUrl env).toList →
      ∃ scheme rest : List Char, (d.connectionUrl env).toList = scheme ++ "://".toList ++ rest ∧
        ¬ "://".toList <:+: scheme ∧
        (d.displayTarget env).toList <:+ rest ∧ '@' ∉ (d.displayTarget env).toList ∧
        (rest = (d.displayTarget env).toList ∨
          ∃ front, rest = front ++ '@' :: (d.displayTarget env).toList) := by
  constructor
  · intro scheme tail unmarked p₁ p₂ d₁ d₂ env₁ env₂ first second
    have alike : d₁.displayTarget env₁ = d₂.displayTarget env₂ := by
      rw [displayTarget_of_isAt unmarked first, displayTarget_of_isAt unmarked second]
    refine ⟨alike, fun c origin => ?_⟩
    simp only [summary, alike, origin]
  · intro d env marked
    obtain ⟨scheme, rest, whole, unmarked⟩ := exists_first_mark marked
    have shown : (d.displayTarget env).toList = afterCredentials rest := by
      rw [displayTarget, String.toList_ofList, whole, targetOf_append unmarked]
    refine ⟨scheme, rest, whole, unmarked, ?_⟩
    rw [shown]
    exact ⟨afterCredentials_suffix rest, at_notMem_afterCredentials rest,
      eq_or_eq_append_afterCredentials rest⟩

/-- A password with every mark in it and no credentials at all lead to the same display, be the
address configured or found in the environment. -/
theorem marked_password_hidden :
    let configured : Database := { url := "postgresql://gc2:p@ss://w:rd@db@node:5432/gis" }
    let found : Database := { url := "", urlVariable := some "UPSTREAM" }
    let env : Environment := fun name =>
      if name = "UPSTREAM" then some "postgresql://@db@node:5432/gis" else none
    configured.IsAt env "postgresql" "gc2:p@ss://w:rd" "db@node:5432/gis" ∧
      found.IsAt env "postgresql" "" "db@node:5432/gis" ∧
      configured.displayTarget env = found.displayTarget env ∧
      configured.displayTarget env = "node:5432/gis" ∧
      '@' ∉ (configured.displayTarget env).toList := by
  intro configured found env
  have unmarked : ¬ "://".toList <:+: "postgresql".toList := by
    have colonless : ':' ∉ "postgresql".toList := by decide
    exact fun h => colonless (h.subset List.mem_cons_self)
  have first : configured.IsAt env "postgresql" "gc2:p@ss://w:rd" "db@node:5432/gis" := by
    have url : configured.connectionUrl env = "postgresql://gc2:p@ss://w:rd@db@node:5432/gis" := rfl
    rw [Database.IsAt, url, ← String.toList_inj]
    simp
  have second : found.IsAt env "postgresql" "" "db@node:5432/gis" := by
    have url : found.connectionUrl env = "postgresql://@db@node:5432/gis" := rfl
    rw [Database.IsAt, url, ← String.toList_inj]
    simp
  have marked : "://".toList <:+: (configured.connectionUrl env).toList := by
    refine ⟨"postgresql".toList, "gc2:p@ss://w:rd@db@node:5432/gis".toList, ?_⟩
    rw [first]
    simp
  refine ⟨first, second, ?_, ?_, ?_⟩
  · exact (displayTarget_hides_credentials.1 _ _ unmarked _ _ _ _ _ _ first second).1
  · rw [displayTarget_of_isAt unmarked first]
    rfl
  · obtain ⟨_, _, -, -, -, plain, -⟩ := displayTarget_hides_credentials.2 configured env marked
    exact plain

end QueryGateway.Config
