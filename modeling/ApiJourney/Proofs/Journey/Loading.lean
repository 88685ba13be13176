-- SUMMARY: What loading a journey fills, and what it leaves as it is.
import ApiJourney.Journey.Loading
import ApiJourney.Proofs.Request.Rendering
import ApiJourney.Proofs.Template.Refilling

/-!
# Loaded journeys

A loaded journey differs from the journey as it is written in its base URL and in the headers of
its defaults only, and these are filled from the context of the load.
-/

namespace ApiJourney.LoadedJourney

open Schema Template RenderedRequest

variable {context : Value} {d d' : JourneyDefaults}

/-! ## Defaults -/

theorem textMap_eq (texts : List (String × String)) :
    Value.textMap texts = .dict (entriesOf texts) := by
  simp [Value.textMap, Value.ofMap, Value.object, entriesOf]

/-- The fields of defaults that hold something. -/
def heldFields (d : JourneyDefaults) : Entries :=
  [(.text "headers", .textMap d.headers)] ++
    (d.timeout.map fun t => (.text "timeout", .float t)).toList ++
    (d.thinkTime.map fun t => (.text "thinkTime", t.toValue)).toList

theorem withoutNulls_toValue (d : JourneyDefaults) :
    withoutNulls d.toValue = .dict (heldFields d) := by
  obtain ⟨headers, timeout, thinkTime⟩ := d
  cases timeout <;> rcases thinkTime with _ | (_ | _) <;> rfl

theorem distinct_heldFields (d : JourneyDefaults) : (heldFields d).Distinct := by
  obtain ⟨headers, timeout, thinkTime⟩ := d
  cases timeout <;> cases thinkTime <;>
    simp [heldFields, Entries.Distinct, Entries.find?]

theorem fill_heldFields (context : Value) (d : JourneyDefaults) :
    ∀ e ∈ heldFields d, fill context e.1 = .ok e.1 := by
  have hheaders : fillText context "headers" = .ok (.text "headers") :=
    fillText_inert context (by decide +kernel) (by decide)
  have htimeout : fillText context "timeout" = .ok (.text "timeout") :=
    fillText_inert context (by decide +kernel) (by decide)
  have hthinkTime : fillText context "thinkTime" = .ok (.text "thinkTime") :=
    fillText_inert context (by decide +kernel) (by decide)
  obtain ⟨headers, timeout, thinkTime⟩ := d
  cases timeout <;> cases thinkTime <;> simp [heldFields, fill, hheaders, htimeout, hthinkTime]

theorem find?_headers (d : JourneyDefaults) :
    (heldFields d).find? (.text "headers") = some (.textMap d.headers) := by
  simp [heldFields, Entries.find?]

theorem find?_timeout (d : JourneyDefaults) :
    (heldFields d).find? (.text "timeout") = d.timeout.map .float := by
  obtain ⟨headers, timeout, thinkTime⟩ := d
  cases timeout <;> cases thinkTime <;> simp [heldFields, Entries.find?]

theorem withDefault_single (es : Entries) (k : String) (default : α) (read : Value → Verdict α) :
    withDefault es [k] default read =
      match es.find? (.text k) with
      | some v => (read v).under (.field k)
      | none => .accepted default := by
  simp only [withDefault, Schema.lookup?, Entries.get?]
  cases es.find? (.text k) <;> rfl

theorem nullable_float {t : Float} {x : Option Float}
    (h : nullable (numberAbove 0) (.float t) = .accepted x) : x = some t := by
  obtain ⟨y, hy, rfl⟩ := Verdict.map_eq_accepted.1 h
  obtain ⟨z, hz, hy⟩ := Verdict.andThen_eq_accepted.1 hy
  cases hz
  split at hy
  · cases hy
    rfl
  · exact absurd hy Verdict.refuse_ne_accepted

/-- Loading fills the headers of the defaults, and keeps the timeout. -/
theorem fillDefaults_ok (h : fillDefaults context d = .ok d') :
    d'.timeout = d.timeout ∧ ∃ hs, fillEntries context [] (entriesOf d.headers) = .ok hs ∧
      dictionary text (.dict hs) = .accepted d'.headers := by
  unfold fillDefaults at h
  obtain ⟨filled, hfilled, h⟩ := bind_eq_ok.1 h
  have hfilled := orFault_eq_ok.1 hfilled
  have hread := accepted_eq_ok.1 h
  rw [withoutNulls_toValue, fillAll] at hfilled
  obtain ⟨fs, hfs, hfilled⟩ := bind_eq_ok.1 hfilled
  cases hfilled
  -- Filling keeps the keys, so each field of the record is filled from the field of its name.
  have hrel := fun key => Entries.rel_find? (R := fun v w => fillAll context v = .ok w)
    (forall₂_fillEntries (distinct_heldFields d) (fill_heldFields context d) hfs) key
  simp only [JourneyDefaults.read, record_eq_accepted, Verdict.seq_eq_accepted,
    Verdict.map_eq_accepted, Schema.optional] at hread
  obtain ⟨es, hes, _, thinkTime, ⟨_, timeout, ⟨headers, hheaders, rfl⟩, htimeout, rfl⟩, -, rfl⟩ :=
    hread
  cases hes
  rw [withDefault_single] at hheaders htimeout
  constructor
  · have htime := hrel (.text "timeout")
    rw [find?_timeout] at htime
    cases hgiven : d.timeout with
    | none =>
      rw [hgiven] at htime
      rw [Entries.eq_none_of_rel_none htime] at htimeout
      cases htimeout
      rfl
    | some t =>
      rw [hgiven] at htime
      obtain ⟨w, hw, hfilled⟩ := Entries.exists_of_rel_some htime
      cases hfilled
      rw [hw] at htimeout
      exact nullable_float (Verdict.under_eq_accepted.1 htimeout)
  · have hnames := hrel (.text "headers")
    rw [find?_headers] at hnames
    obtain ⟨w, hw, hfilled⟩ := Entries.exists_of_rel_some hnames
    rw [hw] at hheaders
    rw [textMap_eq, fillAll] at hfilled
    obtain ⟨hs, hhs, hfilled⟩ := bind_eq_ok.1 hfilled
    cases hfilled
    exact ⟨hs, hhs, Verdict.under_eq_accepted.1 hheaders⟩

theorem ofJourney_ok {j : Journey} {environment : Option Entries} {bindings : Entries}
    {l : LoadedJourney} (h : ofJourney j environment bindings = .ok l) :
    fillBase (.dict (LoadedJourney.context j environment bindings)) j.baseUrl = .ok l.base ∧
      ∃ d', fillDefaults (.dict (LoadedJourney.context j environment bindings)) j.defaults = .ok d' ∧
        l.journey = { j with defaults := d' } := by
  unfold ofJourney at h
  obtain ⟨base, hbase, h⟩ := bind_eq_ok.1 h
  obtain ⟨d', hd', h⟩ := bind_eq_ok.1 h
  dsimp only at h
  split at h
  · cases h
  · cases h
    exact ⟨orFault_eq_ok.1 hbase, d', hd', rfl⟩

/-! ## Headers -/

variable {early late : Value} {defaults filled own : List (String × String)}

/-- What the headers of the defaults are once they were filled early. Names and texts settle,
    the names are distinct, and none of them becomes a name of the given headers, nor does one
    that is such a name become another. -/
structure HeadersSettle (early late : Value) (defaults filled own : List (String × String)) :
    Prop where
  each : List.Forall₂ (fun e f => Settles early late e.1 f.1 ∧ Settles early late e.2 f.2)
    defaults filled
  distinct : (filled.map Prod.fst).Nodup
  apart : List.Forall₂ (fun e f => ∀ name ∈ own.map Prod.fst, f.1 = name ↔ e.1 = name)
    defaults filled

theorem entries_of_settles
    (h : List.Forall₂ (fun e f => Settles early late e.1 f.1 ∧ Settles early late e.2 f.2)
      defaults filled)
    {gs : Entries} (hgs : List.Forall₂ (FillsTo early) (entriesOf defaults) gs) :
    gs = entriesOf filled := by
  induction h generalizing gs with
  | nil =>
    cases hgs
    rfl
  | @cons e f defaults filled hef _ ih =>
    cases hgs with
    | @cons _ g _ gs hg hgs =>
      have hname : g.1 = .text f.1 := Except.ok.inj (hg.key.symm.trans hef.1.fillText_early)
      have htext : g.2 = .text f.2 := by
        have hvalue := hg.value
        rw [fillAll, hef.2.fillText_early] at hvalue
        exact (Except.ok.inj hvalue).symm
      rw [ih hgs]
      exact congrArg (· :: entriesOf filled) (Prod.ext hname htext)

/-- The load fills them so. -/
theorem HeadersSettle.eq_filled (h : HeadersSettle early late defaults filled own)
    {hs : Entries} {headers : List (String × String)}
    (hfill : fillEntries early [] (entriesOf defaults) = .ok hs)
    (hread : dictionary text (.dict hs) = .accepted headers) : headers = filled := by
  obtain ⟨gs, hgs, rfl⟩ := fillEntries_eq_ok.1 hfill
  have hgathered : Entries.update [] gs = entriesOf filled := by
    rw [entries_of_settles h.each hgs]
    exact Entries.ofList_of_distinct (distinct_entriesOf h.distinct)
  rw [hgathered, read_entriesOf h.distinct] at hread
  exact (Verdict.accepted_inj.1 hread).symm

/-- Two headers that become the same, and that given headers replace alike. -/
def Alike (late : Value) (own : List (String × String)) (e f : String × String) : Prop :=
  (fillText late f.1 = fillText late e.1 ∧ fillText late f.2 = fillText late e.2) ∧
    ∀ name ∈ own.map Prod.fst, f.1 = name ↔ e.1 = name

theorem HeadersSettle.alike (h : HeadersSettle early late defaults filled own) :
    List.Forall₂ (Alike late own) defaults filled :=
  h.each.mp (fun _ _ hsettles hapart =>
    ⟨⟨hsettles.1.fillText_late, hsettles.2.fillText_late⟩, hapart⟩) h.apart

theorem alike_put {k v : String} (hk : k ∈ own.map Prod.fst)
    (h : List.Forall₂ (Alike late own) defaults filled) :
    List.Forall₂ (Alike late own) (mergeHeaders.put k v defaults) (mergeHeaders.put k v filled) := by
  have hsame : Alike late own (k, v) (k, v) := ⟨⟨rfl, rfl⟩, fun _ _ => Iff.rfl⟩
  induction h with
  | nil => exact .cons hsame .nil
  | @cons e f defaults filled hef hrest ih =>
    rw [mergeHeaders.put, mergeHeaders.put]
    by_cases hname : e.1 = k
    · rw [if_pos hname, if_pos ((hef.2 k hk).2 hname)]
      exact .cons hsame hrest
    · rw [if_neg hname, if_neg fun heq => hname ((hef.2 k hk).1 heq)]
      exact .cons hef ih

theorem alike_mergeHeaders {more : List (String × String)} (hmore : more ⊆ own)
    (h : List.Forall₂ (Alike late own) defaults filled) :
    List.Forall₂ (Alike late own) (mergeHeaders defaults more) (mergeHeaders filled more) := by
  induction more generalizing defaults filled with
  | nil => exact h
  | cons e more ih =>
    obtain ⟨he, hmore⟩ := List.cons_subset.1 hmore
    exact ih hmore (alike_put (List.mem_map_of_mem he) h)

theorem fillEntries_alike (h : List.Forall₂ (Alike late own) defaults filled) (acc : Entries) :
    fillEntries late acc (entriesOf filled) = fillEntries late acc (entriesOf defaults) := by
  induction h generalizing acc with
  | nil => rfl
  | @cons e f defaults filled hef _ ih =>
    have hname : fill late (.text f.1) = fill late (.text e.1) := hef.1.1
    have htext : fillAll late (.text f.2) = fillAll late (.text e.2) := by
      rw [fillAll, fillAll]
      exact hef.1.2
    change fillEntries late acc ((.text f.1, .text f.2) :: entriesOf filled) =
      fillEntries late acc ((.text e.1, .text e.2) :: entriesOf defaults)
    rw [fillEntries, fillEntries, hname, htext]
    simp only [ih]

/-- With headers that settle, filling what is left of them is as filling them. -/
theorem HeadersSettle.fillTexts_eq (h : HeadersSettle early late defaults filled own) :
    fillTexts late (mergeHeaders filled own) = fillTexts late (mergeHeaders defaults own) := by
  have halike := alike_mergeHeaders (List.Subset.refl own) h.alike
  have hfilled := fillEntries_alike halike []
  unfold fillTexts
  exact congrArg (· >>= textEntries) hfilled

end ApiJourney.LoadedJourney
