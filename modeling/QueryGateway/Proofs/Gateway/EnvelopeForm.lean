import QueryGateway.Proofs.Cache.Staleness
import QueryGateway.Proofs.Gateway.AddedFields
import QueryGateway.Proofs.Json.Text
import QueryGateway.Proofs.Text.Utf8
import QueryGateway.Proofs.Time.Timestamp

/-! The JSON form of an envelope, and what is read of it.

Every field is read back as it was written but two: data that is null counts as missing, and a time
in a leap second that does not end a minute is read as its text says (`Envelope.reread`). So an
envelope survives its form exactly if it holds neither (`Envelope.json_form_keeps_iff`), and it
survives the text of its form if that is not nested too deep either. -/
namespace QueryGateway

open Json

/-! ### Fields that may be missing -/

theorem Json.Fields.optional_of_some {α : Type} {fs : Fields} {name : String} {v : Json}
    (there : fs name = some v) (other : v ≠ .null) (read : Json → Option α) :
    fs.optional name read = (read v).map some := by
  rw [optional, there]
  cases v with
  | null => exact absurd rfl other
  | _ => rfl

/-- A field that is never written as null is read if what is written of it is. -/
theorem Json.Fields.optional_map {α : Type} {fs : Fields} {name : String} {read : Json → Option α}
    {write : α → Json} {seen : α → α} {o : Option α} (written : fs name = o.map write)
    (other : ∀ a, write a ≠ .null) (back : ∀ a, o = some a → read (write a) = some (seen a)) :
    fs.optional name read = some (o.map seen) := by
  cases o with
  | none =>
    rw [optional, written]
    rfl
  | some a =>
    rw [optional_of_some written (other a), back a rfl]
    rfl

theorem string_ne_null (text : String) : Json.string text ≠ .null := nofun

theorem object_ne_null (ms : Members) : Json.object ms ≠ .null := nofun

theorem ofNat_ne_null (n : Nat) : Json.ofNat n ≠ .null := nofun

theorem regular_ofNat {n : Nat} (h : n < Nat.pow 2 64) : (Json.ofNat n).Regular :=
  ⟨by omega, Int.ofNat_lt.mpr h⟩

theorem asNatBelow?_ofNat {bound n : Nat} (h : n < bound) :
    (Json.ofNat n).asNatBelow? bound = some n := by
  have fits : ((n : Nat) : Int) < (bound : Nat) := Int.ofNat_lt.mpr h
  have positive : (0 : Int) ≤ n := Int.natCast_nonneg n
  rw [Json.ofNat, asNatBelow?, if_pos (by simp only [positive, fits, decide_true, Bool.and_self])]
  rfl

/-! ### What is said about the cache -/

namespace CacheStatus

/-- The times that a status tells. -/
def times : CacheStatus → List Instant
  | .hit createdAt _ expiresAt => createdAt :: expiresAt.toList
  | .miss _ => []

/-- A status with its times as their texts say. -/
def legible : CacheStatus → CacheStatus
  | .hit createdAt signature expiresAt =>
    .hit createdAt.legible signature (expiresAt.map Instant.legible)
  | .miss flag => .miss flag

theorem legible_eq_self_iff {s : CacheStatus} : s.legible = s ↔ ∀ t ∈ s.times, t.legible = t := by
  cases s with
  | miss flag => exact iff_of_true rfl (List.forall_mem_nil _)
  | hit createdAt signature expiresAt => cases expiresAt <;> simp [legible, times]

theorem toJson_ne_null (s : CacheStatus) : s.toJson ≠ .null := by
  cases s <;> exact nofun

theorem instant?_render {t : Instant} (h : Instant.inCalendar t.second = true)
    (hf : t.fraction < 2 * Span.perSecond) : instant? (.string t.render) = some t.legible := by
  rw [instant?, asString?, Option.bind_some, Instant.read_render h hf]

/-- The fields of a hit. -/
def hitFields (createdAt : Instant) (signature : String) (expiresAt : Option Instant) :
    List (String × Option Json) :=
  [("created_at", some (.string createdAt.render)), ("signature", some (.string signature)),
    ("expires_at", expiresAt.map fun t => .string t.render)]

theorem toJson_hit (createdAt : Instant) (signature : String) (expiresAt : Option Instant) :
    toJson (.hit createdAt signature expiresAt) =
      .object (Members.ofList (Members.present (hitFields createdAt signature expiresAt))) := by
  rw [toJson, ofMembers]
  simp [Members.present, hitFields, Function.comp_def]

theorem ofJson?_object (ms : Members) :
    ofJson? (.object ms) = (Fields.required (Members.get? ms) "created_at" instant?).bind
      fun createdAt => (Fields.required (Members.get? ms) "signature" asString?).bind
        fun signature => (Fields.optional (Members.get? ms) "expires_at" instant?).bind
          fun expiresAt => some (.hit createdAt signature expiresAt) := rfl

theorem ofJson?_toJson {s : CacheStatus}
    (h : ∀ t ∈ s.times, Instant.inCalendar t.second = true ∧ t.fraction < 2 * Span.perSecond) :
    ofJson? s.toJson = some s.legible := by
  cases s with
  | miss flag => rfl
  | hit createdAt signature expiresAt =>
    have found : ∀ key,
        Members.get? (Members.ofList (Members.present (hitFields createdAt signature expiresAt))) key =
          ((hitFields createdAt signature expiresAt).lookup key).join := fun key =>
      (Members.get?_extend_present (by simp [hitFields]) [] key).trans Option.or_none
    rw [toJson_hit, ofJson?_object]
    generalize Members.ofList (Members.present (hitFields createdAt signature expiresAt)) = ms at found
    have created : Fields.required (Members.get? ms) "created_at" instant? =
        some createdAt.legible := by
      have told := h createdAt List.mem_cons_self
      have there : ((hitFields createdAt signature expiresAt).lookup "created_at").join =
          some (.string createdAt.render) := rfl
      rw [Fields.required, found, there, Option.bind_some, instant?_render told.1 told.2]
    have signed : Fields.required (Members.get? ms) "signature" asString? = some signature := by
      rw [Fields.required, found "signature"]
      rfl
    have expires : Fields.optional (Members.get? ms) "expires_at" instant? =
        some (expiresAt.map Instant.legible) := by
      refine Fields.optional_map (found "expires_at") (fun _ => string_ne_null _) fun t ht => ?_
      have told := h t (List.mem_cons_of_mem _ (Option.mem_toList.mpr ht))
      exact instant?_render told.1 told.2
    rw [created, Option.bind_some, signed, Option.bind_some, expires, Option.bind_some, legible]

theorem regular_toJson (s : CacheStatus) : s.toJson.Regular := by
  cases s with
  | miss flag => trivial
  | hit createdAt signature expiresAt =>
    rw [toJson_hit]
    refine ⟨Members.sorted_ofList _, regularMembers_iff.mpr fun m hm => ?_⟩
    have there := Members.mem_present (Members.mem_ofList hm)
    simp only [hitFields, List.mem_cons, List.not_mem_nil, or_false, Prod.mk.injEq] at there
    rcases there with ⟨-, there⟩ | ⟨-, there⟩ | ⟨-, there⟩
    · exact Option.some.inj there ▸ trivial
    · exact Option.some.inj there ▸ trivial
    · obtain ⟨t, -, text⟩ := Option.map_eq_some_iff.mp there.symm
      exact text ▸ trivial

end CacheStatus

/-! ### Envelopes -/

namespace Envelope

/-- The times that an envelope tells. -/
def times (e : Envelope) : List Instant := (e.cacheHit.map CacheStatus.times).getD []

/-- An envelope without real numbers, of the numbers and times that there are. -/
structure Regular (e : Envelope) : Prop where
  data : ∀ v, e.data = some v → v.Regular
  affected : ∀ n, e.affectedRows = some n → n < Nat.pow 2 64
  times : ∀ t ∈ e.times, Instant.inCalendar t.second = true ∧ t.fraction < 2 * Span.perSecond
  authCheck : ∀ ms, e.authCheck = some ms → (Json.object ms).Regular
  extra : (Json.object e.extra).Regular

/-- Nothing is added under the names of the own fields. -/
def KeepsNames (e : Envelope) : Prop := ∀ m ∈ e.extra, m.1 ∉ fieldNames

/-- Data that is there, unless it is null. -/
def unlessNull : Option Json → Option Json
  | some .null => none
  | data => data

/-- What is read of an envelope: null data is missing, and times are as their texts say. -/
def reread (e : Envelope) : Envelope :=
  { e with data := unlessNull e.data, cacheHit := e.cacheHit.map CacheStatus.legible }

theorem unlessNull_eq_self_iff {data : Option Json} :
    unlessNull data = data ↔ data ≠ some .null := by
  rcases data with - | v
  · exact iff_of_true rfl nofun
  · cases v with
    | null => exact iff_of_false nofun fun h => h rfl
    | _ => exact iff_of_true rfl nofun

theorem reread_eq_self_iff {e : Envelope} :
    e.reread = e ↔ e.data ≠ some .null ∧ ∀ t ∈ e.times, t.legible = t := by
  have hits : e.cacheHit.map CacheStatus.legible = e.cacheHit ↔ ∀ t ∈ e.times, t.legible = t := by
    rw [times]
    cases e.cacheHit with
    | none => exact iff_of_true rfl (List.forall_mem_nil _)
    | some s => exact (Option.some_inj).trans CacheStatus.legible_eq_self_iff
  rw [← unlessNull_eq_self_iff, ← hits]
  constructor
  · intro h
    exact ⟨congrArg data h, congrArg cacheHit h⟩
  · rintro ⟨data, hit⟩
    rw [reread, data, hit]

section Reading

variable {e : Envelope} (regular : e.Regular) (names : e.KeepsNames)

include names in
theorem lastAdded?_extra {key : String} (own : key ∈ fieldNames) : lastAdded? e.extra key = none :=
  lastAdded?_eq_none_iff.mpr fun m hm same => names m hm (same ▸ own)

include names in
/-- Each own field is found in the form under its name. -/
theorem get?_own {key : String} (own : key ∈ fieldNames) :
    e.toJson.get? key = (e.fields.lookup key).join := by
  rw [get?_toJson, lastAdded?_extra names own, Option.none_or]

theorem sorted_toJson (e : Envelope) :
    Members.Sorted ((Members.ofList e.ownMembers).extend e.extra) :=
  (Members.sorted_ofList _).extend _

include regular names in
/-- All that is not an own field is extra. -/
theorem without_toJson :
    Members.without fieldNames ((Members.ofList e.ownMembers).extend e.extra) = e.extra := by
  refine ((sorted_toJson e).without _).ext regular.extra.1 fun key => ?_
  have found : Members.get? ((Members.ofList e.ownMembers).extend e.extra) key =
    (lastAdded? e.extra key).or (e.fields.lookup key).join := get?_toJson e key
  rw [Members.get?_without, found, lastAdded?, regular.extra.1.lookup_reverse]
  split
  · rename_i own
    exact ((regular.extra.1.lookup_reverse key).symm.trans (lastAdded?_extra names own)).symm
  · rename_i other
    have absent : e.fields.lookup key = none := by
      refine List.lookup_eq_none_iff.mpr fun m hm => bne_iff_ne.mpr fun same => other ?_
      rw [← map_fst_fields e]
      exact List.mem_map.mpr ⟨m, hm, same.symm⟩
    rw [absent]
    exact Option.or_none

theorem ofJson?_object (ms : Members) :
    ofJson? (.object ms) = (Fields.required (Members.get? ms) "success" asBool?).bind
      fun success => (Fields.optional (Members.get? ms) "code" asUInt16?).bind
        fun code => (Fields.optional (Members.get? ms) "message" asString?).bind
          fun message => (Fields.optional (Members.get? ms) "data" some).bind
            fun data => (Fields.optional (Members.get? ms) "affected_rows" asNat64?).bind
              fun affectedRows => (Fields.optional (Members.get? ms) "cache_hit" CacheStatus.ofJson?).bind
                fun cacheHit => (Fields.optional (Members.get? ms) "auth_check" asObject?).bind
                  fun authCheck =>
                    (Fields.optional (Members.get? ms) "peak_memory_usage" asString?).bind
                      fun peakMemoryUsage => some ⟨success, code, message, data, affectedRows,
                        cacheHit, authCheck, peakMemoryUsage, Members.without fieldNames ms⟩ := rfl

include regular names in
/-- **What is read of the form of an envelope.** -/
theorem ofJson?_toJson : ofJson? e.toJson = some e.reread := by
  have own : ∀ key, key ∈ fieldNames →
      Members.get? ((Members.ofList e.ownMembers).extend e.extra) key =
        (e.fields.lookup key).join := fun key => get?_own names
  have rest := without_toJson regular names
  rw [toJson, ofJson?_object, rest]
  generalize (Members.ofList e.ownMembers).extend e.extra = ms at own
  have success : Fields.required (Members.get? ms) "success" asBool? = some e.success := by
    rw [Fields.required, own "success" (by decide)]
    rfl
  have code : Fields.optional (Members.get? ms) "code" asUInt16? = some (e.code.map id) := by
    refine Fields.optional_map (own "code" (by decide)) (fun _ => ofNat_ne_null _) fun c _ => ?_
    rw [asUInt16?, asNatBelow?_ofNat c.toNat_lt]
    exact congrArg some c.ofNat_toNat
  have message : Fields.optional (Members.get? ms) "message" asString? = some (e.message.map id) :=
    Fields.optional_map (own "message" (by decide)) string_ne_null fun _ _ => rfl
  have data : Fields.optional (Members.get? ms) "data" some = some (unlessNull e.data) := by
    have there : Members.get? ms "data" = e.data := own "data" (by decide)
    rw [Fields.optional, there]
    rcases e.data with - | v
    · rfl
    · cases v <;> rfl
  have affected : Fields.optional (Members.get? ms) "affected_rows" asNat64? =
      some (e.affectedRows.map id) :=
    Fields.optional_map (own "affected_rows" (by decide)) ofNat_ne_null fun n hn =>
      asNatBelow?_ofNat (regular.affected n hn)
  have hit : Fields.optional (Members.get? ms) "cache_hit" CacheStatus.ofJson? =
      some (e.cacheHit.map CacheStatus.legible) := by
    refine Fields.optional_map (own "cache_hit" (by decide)) CacheStatus.toJson_ne_null fun s hs => ?_
    refine CacheStatus.ofJson?_toJson fun t ht => regular.times t ?_
    rw [times, hs]
    exact ht
  have check : Fields.optional (Members.get? ms) "auth_check" asObject? = some (e.authCheck.map id) :=
    Fields.optional_map (own "auth_check" (by decide)) object_ne_null fun _ _ => rfl
  have memory : Fields.optional (Members.get? ms) "peak_memory_usage" asString? =
      some (e.peakMemoryUsage.map id) :=
    Fields.optional_map (own "peak_memory_usage" (by decide)) string_ne_null fun _ _ => rfl
  simp only [success, code, message, data, affected, hit, check, memory, Option.bind_some,
    Option.map_id, id]
  rfl

include regular in
theorem regular_toJson : e.toJson.Regular := by
  have own : ∀ m ∈ Members.ofList e.ownMembers, m.2.Regular := by
    intro m hm
    rw [ownMembers_eq] at hm
    have there := Members.mem_present (Members.mem_ofList hm)
    simp only [fields, List.mem_cons, List.not_mem_nil, or_false, Prod.mk.injEq] at there
    rcases there with ⟨-, there⟩ | ⟨-, there⟩ | ⟨-, there⟩ | ⟨-, there⟩ | ⟨-, there⟩ | ⟨-, there⟩ |
      ⟨-, there⟩ | ⟨-, there⟩
    · exact Option.some.inj there ▸ trivial
    · obtain ⟨c, -, written⟩ := Option.map_eq_some_iff.mp there.symm
      exact written ▸ regular_ofNat (Nat.lt_of_lt_of_le c.toNat_lt (by decide))
    · obtain ⟨text, -, written⟩ := Option.map_eq_some_iff.mp there.symm
      exact written ▸ trivial
    · exact regular.data _ there.symm
    · obtain ⟨n, hn, written⟩ := Option.map_eq_some_iff.mp there.symm
      exact written ▸ regular_ofNat (regular.affected n hn)
    · obtain ⟨s, -, written⟩ := Option.map_eq_some_iff.mp there.symm
      exact written ▸ s.regular_toJson
    · obtain ⟨ms, hms, written⟩ := Option.map_eq_some_iff.mp there.symm
      exact written ▸ regular.authCheck ms hms
    · obtain ⟨text, -, written⟩ := Option.map_eq_some_iff.mp there.symm
      exact written ▸ trivial
  refine ⟨sorted_toJson e, regularMembers_iff.mpr fun m hm => ?_⟩
  rcases Members.mem_extend hm with hm | hm
  · exact own m hm
  · exact regularMembers_iff.mp regular.extra.2 m hm

/-- What is read of the bytes of a JSON text as an envelope. -/
def ofBytes? (bytes : List UInt8) : Option Envelope :=
  (Text.Utf8.decode? bytes).bind fun s => (Json.read s).bind ofJson?

include regular names in
theorem ofBytes?_render :
    ofBytes? (Text.Utf8.encodeChars e.toJson.renderChars) =
      if e.toJson.depth ≤ nestingLimit then some e.reread else none := by
  have text := readWithin_renderChars (regular_toJson regular) nestingLimit
  rw [readWithin_nestingLimit] at text
  rw [ofBytes?, Text.Utf8.decode?_encodeChars, Option.bind_some, Json.read, String.toList_ofList,
    text]
  split
  · exact ofJson?_toJson regular names
  · rfl

include regular in
theorem reread_eq_self_iff_told :
    e.reread = e ↔ e.data ≠ some .null ∧ ∀ t ∈ e.times, t.Told := by
  rw [reread_eq_self_iff]
  refine and_congr_right fun _ => forall₂_congr fun t ht => ?_
  obtain ⟨calendar, fraction⟩ := regular.times t ht
  rw [Instant.legible_eq_self_iff]
  exact ⟨fun minute => ⟨calendar, fraction, minute⟩, fun told => told.minute⟩

end Reading

/-- **An envelope survives its JSON form exactly if its data is not null** and its times can be
told; it survives the text of the form if that is not nested too deep for the reader either.
What is read in any case is the envelope without null data. -/
theorem json_form_keeps_iff {e : Envelope} (regular : e.Regular) (names : e.KeepsNames) :
    (ofJson? e.toJson = some e ↔ e.data ≠ some .null ∧ ∀ t ∈ e.times, t.Told) ∧
    (ofBytes? (Text.Utf8.encodeChars e.toJson.renderChars) = some e ↔
      (e.data ≠ some .null ∧ ∀ t ∈ e.times, t.Told) ∧ e.toJson.depth ≤ nestingLimit) ∧
    ((∀ t ∈ e.times, t.Told) → ofJson? e.toJson = some { e with data := unlessNull e.data }) := by
  have told := reread_eq_self_iff_told regular
  refine ⟨?_, ?_, fun times => ?_⟩
  · rw [ofJson?_toJson regular names, Option.some_inj, told]
  · rw [ofBytes?_render regular names, ← told]
    split
    · rename_i fits
      rw [Option.some_inj, and_iff_left fits]
    · rename_i deep
      exact iff_of_false nofun fun h => deep h.2
  · have hits : e.cacheHit.map CacheStatus.legible = e.cacheHit := by
      have kept : ({ e with data := none } : Envelope).reread = { e with data := none } :=
        reread_eq_self_iff.mpr
          ⟨nofun, fun t ht => Instant.legible_eq_self_iff.mpr (times t ht).minute⟩
      exact congrArg cacheHit kept
    rw [ofJson?_toJson regular names, reread, hits]

/-- An envelope with all its fields, of a hit whose time to live ends in a leap second. -/
def complete : Envelope :=
  { success := true, code := some 200, message := some "a\nb", data := some (.array [.null]),
    affectedRows := some 3,
    cacheHit := some (.hit ⟨1700000000, 123456000⟩ "00" (some ⟨1483228799, 1500000000⟩)),
    authCheck := some [("success", .bool true)], peakMemoryUsage := some "1 KB",
    extra := [("statements", .ofNat 2)] }

theorem complete_survives :
    complete.Regular ∧ complete.KeepsNames ∧ complete.data ≠ some .null ∧
      (∀ t ∈ complete.times, t.Told) ∧ ofJson? complete.toJson = some complete ∧
      ofBytes? (Text.Utf8.encodeChars complete.toJson.renderChars) = some complete := by
  have regular : complete.Regular := {
    data := fun v hv => Option.some.inj hv ▸ ⟨trivial, trivial⟩
    affected := fun n hn => Option.some.inj hn ▸ by decide
    times := by decide
    authCheck := fun ms hms => Option.some.inj hms ▸ ⟨List.pairwise_singleton _ _, trivial, trivial⟩
    extra := ⟨List.pairwise_singleton _ _, ⟨by decide, by decide⟩, trivial⟩ }
  have names : complete.KeepsNames := by
    intro m hm
    obtain rfl := List.mem_singleton.mp hm
    decide
  have times : ∀ t ∈ complete.times, t.Told := by decide
  have data : complete.data ≠ some .null := nofun
  obtain ⟨tree, text, -⟩ := json_form_keeps_iff regular names
  exact ⟨regular, names, data, times, tree.mpr ⟨data, times⟩, text.mpr ⟨⟨data, times⟩, by decide⟩⟩

/-- The envelope of a change loses its data: it is null, and it is read as missing. -/
theorem mutation_loses_data :
    let e := Gateway.success {} { affectedRows := some 3 } none none
    e.data = some .null ∧ ofJson? e.toJson = some { e with data := none } :=
  ⟨rfl, rfl⟩

end Envelope

end QueryGateway
