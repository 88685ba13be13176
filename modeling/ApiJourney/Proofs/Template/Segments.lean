-- SUMMARY: A template that is written in segments is filled segment by segment, in one pass.
import ApiJourney.Proofs.Outcome
import ApiJourney.Proofs.Template.Refilling

/-!
# Templates in segments

A template without stray braces is written as chunks of text and placeholders, however they stand
next to each other. It is taken apart exactly where it was put together: the chunks stay, and each
placeholder becomes the text of the value that its path leads to, or stays if the path leads
nowhere. What is put in is not read again, whatever placeholders or tokens are in it.
-/

namespace ApiJourney.Template

open ApiJourney.Text

/-! ## Segments -/

/-- A path that can stand in a placeholder: something without braces, and without blanks at its
    ends. -/
structure IsPath (path : List Char) : Prop where
  ne_nil : path ≠ []
  no_brace : ∀ c ∈ path, isBrace c = false
  trimmed : trim path = path

/-- A segment of a template: a chunk without braces, or a placeholder with blanks around its
    path. -/
inductive Segment where
  | chunk (cs : List Char) (free : ∀ c ∈ cs, isBrace c = false)
  | place (before path after : List Char) (isPath : IsPath path)
      (blank_before : ∀ c ∈ before, isBlank c = true) (blank_after : ∀ c ∈ after, isBlank c = true)

namespace Segment

/-- How a segment is written. -/
def written : Segment → List Char
  | chunk cs _ => cs
  | place before path after _ _ _ => placeholder (before ++ path ++ after)

/-- What becomes of a segment. -/
def filled (context : Value) : Segment → Except Fault (List Char)
  | chunk cs _ => .ok cs
  | place before path after _ _ _ =>
    fillPath context path (placeholder (before ++ path ++ after))

end Segment

/-- The template that segments make up. -/
def templateOf (segments : List Segment) : List Char :=
  segments.flatMap Segment.written

/-- What becomes of a segment whose value has a text. -/
inductive Becomes (context : Value) : Segment → List Char → Prop where
  | chunk {cs : List Char} {free : ∀ c ∈ cs, isBrace c = false} :
      Becomes context (.chunk cs free) cs
  | value {before path after : List Char} {isPath : IsPath path}
      {hbefore : ∀ c ∈ before, isBlank c = true} {hafter : ∀ c ∈ after, isBlank c = true}
      {v : Value} {t : String} :
      lookup? context path = .ok (some v) → textOf v = .ok t →
      Becomes context (.place before path after isPath hbefore hafter) t.toList
  | missing {before path after : List Char} {isPath : IsPath path}
      {hbefore : ∀ c ∈ before, isBlank c = true} {hafter : ∀ c ∈ after, isBlank c = true} :
      lookup? context path = .ok none →
      Becomes context (.place before path after isPath hbefore hafter)
        (placeholder (before ++ path ++ after))

variable {context : Value} {before path after : List Char}

/-! ## Placeholders with blanks -/

theorem isBrace_of_isBlank {c : Char} (h : isBlank c = true) : isBrace c = false := by
  simp only [isBrace, Bool.or_eq_false_iff, beq_eq_false_iff_ne]
  constructor <;> rintro rfl <;> revert h <;> decide

/-- Blanks around a text are trimmed away, and no more than that if it has none at its ends. -/
theorem trim_between (hbefore : ∀ c ∈ before, isBlank c = true)
    (hafter : ∀ c ∈ after, isBlank c = true) (hpath : trim path = path) (hne : path ≠ []) :
    trim (before ++ path ++ after) = path := by
  have hfront : trimStart (before ++ path ++ after) = path ++ after := by
    obtain ⟨c, rest, rfl⟩ := List.exists_cons_of_ne_nil hne
    have hc := (not_isBlank_of_trim hpath).1 c rfl
    rw [trimStart, List.append_assoc, List.dropWhile_append_of_pos hbefore, List.cons_append,
      List.dropWhile_cons_of_neg (by simp [hc])]
  have hback : trimEnd (path ++ after) = path := by
    have hafter' : ∀ c ∈ after.reverse, isBlank c = true := fun c hc =>
      hafter c (List.mem_reverse.1 hc)
    rw [trimEnd, dropEndWhile, List.reverse_append, List.dropWhile_append_of_pos hafter']
    exact trimEnd_of_trim hpath
  rw [trim, hfront, hback]

theorem IsPath.content (h : IsPath path) (hbefore : ∀ c ∈ before, isBlank c = true)
    (hafter : ∀ c ∈ after, isBlank c = true) : Content (before ++ path ++ after) where
  ne_nil := by simp [h.ne_nil]
  no_brace := by
    simp only [List.forall_mem_append]
    exact ⟨⟨fun c hc => isBrace_of_isBlank (hbefore c hc), h.no_brace⟩,
      fun c hc => isBrace_of_isBlank (hafter c hc)⟩

/-- The path of a placeholder is what stands between the blanks. -/
theorem IsPath.pathOf_eq (h : IsPath path) (hbefore : ∀ c ∈ before, isBlank c = true)
    (hafter : ∀ c ∈ after, isBlank c = true) : pathOf (before ++ path ++ after) = path := by
  rw [pathOf, trim_between hbefore hafter h.trimmed h.ne_nil]
  cases path with
  | nil => exact absurd rfl h.ne_nil
  | cons c rest => rfl

/-! ## Filling segment by segment -/

/-- No placeholder begins in a chunk, whatever stands behind it. -/
theorem inert_of_no_brace {cs : List Char} (h : ∀ c ∈ cs, isBrace c = false) (rest : List Char) :
    Inert rest cs := by
  induction cs with
  | nil => trivial
  | cons c cs ih =>
    rw [List.forall_mem_cons] at h
    have hc : (c == '\x7b') = false := (Bool.or_eq_false_iff.1 h.1).1
    refine ⟨?_, ih h.2⟩
    cases cs ++ rest <;> simp [placeholder?, hc]

/-- The segment at the front is filled on its own. -/
theorem fillFrom_segment (context : Value) (s : Segment) (rest : List Char) :
    fillFrom context 0 (s.written ++ rest) = (do
      let part ← s.filled context
      let more ← fillFrom context 0 rest
      .ok (part ++ more)) := by
  cases s with
  | chunk cs free =>
    rw [Segment.written, fillFrom_inert context (inert_of_no_brace free rest)]
    cases fillFrom context 0 rest <;> rfl
  | place before path after isPath hbefore hafter =>
    rw [Segment.written, fillFrom_placeholder context (isPath.content hbefore hafter), fillHole,
      isPath.pathOf_eq hbefore hafter]
    rfl

theorem fillFrom_segments (context : Value) (segments : List Segment) :
    fillFrom context 0 (templateOf segments) =
      (segments.mapM (Segment.filled context)).map List.flatten := by
  induction segments with
  | nil => rfl
  | cons s segments ih =>
    have hfront := fillFrom_segment context s (templateOf segments)
    rw [templateOf, List.flatMap_cons, ← templateOf, hfront, ih, List.mapM_cons]
    cases s.filled context with
    | error f => rfl
    | ok part => cases segments.mapM (Segment.filled context) <;> rfl

/-- A segment becomes something where filling it succeeds. -/
theorem becomes_iff {s : Segment} {part : List Char} :
    Becomes context s part ↔ s.filled context = .ok part := by
  constructor
  · intro h
    cases h with
    | chunk => rfl
    | value hv ht =>
      rw [Segment.filled, fillPath, hv]
      exact congrArg (Except.map String.toList) ht
    | missing hnone =>
      rw [Segment.filled, fillPath, hnone]
      rfl
  · intro h
    cases s with
    | chunk cs free =>
      cases h
      exact .chunk
    | place before path after isPath hbefore hafter =>
      obtain ⟨found, hfound, h⟩ := bind_eq_ok.1 h
      cases found with
      | none =>
        cases h
        exact .missing hfound
      | some v =>
        obtain ⟨t, ht, rfl⟩ := map_eq_ok.1 h
        exact .value hfound ht

theorem mapM_filled {segments : List Segment} {parts : List (List Char)} :
    segments.mapM (Segment.filled context) = .ok parts ↔
      List.Forall₂ (Becomes context) segments parts := by
  induction segments generalizing parts with
  | nil =>
    rw [List.mapM_nil, List.forall₂_nil_left_iff]
    exact ⟨fun h => (Except.ok.inj h).symm, fun h => congrArg Except.ok h.symm⟩
  | cons s segments ih =>
    rw [List.mapM_cons, List.forall₂_cons_left_iff, bind_eq_ok]
    refine exists_congr fun part => ?_
    rw [bind_eq_ok, ← becomes_iff]
    constructor
    · rintro ⟨hpart, more, hmore, h⟩
      exact ⟨more, hpart, ih.1 hmore, (Except.ok.inj h).symm⟩
    · rintro ⟨more, hpart, hmore, rfl⟩
      exact ⟨hpart, more, ih.2 hmore, rfl⟩

/-- A template that is no token is filled to what becomes of its segments, one behind the other,
    or fails as the first of them does that fails. It is filled where each path leads to a value
    with a text or leads nowhere. -/
theorem fill_segments (context : Value) {segments : List Segment}
    (htoken : tokenBody? (templateOf segments) = none) :
    fill context (.text (String.ofList (templateOf segments))) =
      (segments.mapM (Segment.filled context)).map (fun parts =>
        .text (String.ofList parts.flatten)) ∧
    ∀ v, fill context (.text (String.ofList (templateOf segments))) = .ok v ↔
      ∃ parts, List.Forall₂ (Becomes context) segments parts ∧
        v = .text (String.ofList parts.flatten) := by
  have hfill : fill context (.text (String.ofList (templateOf segments))) =
      (segments.mapM (Segment.filled context)).map (fun parts =>
        .text (String.ofList parts.flatten)) := by
    rw [fill, fillText_of_no_token htoken, fillFrom_segments]
    cases segments.mapM (Segment.filled context) <;> rfl
  refine ⟨hfill, fun v => ?_⟩
  rw [hfill, map_eq_ok]
  refine exists_congr fun parts => ?_
  rw [mapM_filled, eq_comm (a := v)]

/-- Variables whose texts are a placeholder and a token themselves. -/
def nestedContext : Value :=
  .object [("a", .text "\x7b\x7bb\x7d\x7d"), ("b", .text "##VAR:unquoted:a##")]

theorem isPath_letter {c : Char} (hbrace : isBrace c = false) (hblank : isBlank c = false) :
    IsPath [c] where
  ne_nil := List.cons_ne_nil _ _
  no_brace := List.forall_mem_singleton.2 hbrace
  trimmed := trim_of_ends (by simpa using hblank) (by simpa using hblank)

/-- A chunk, two placeholders side by side behind it, and one whose path leads nowhere. -/
def nestedTemplate : List Segment :=
  [.chunk ['x'] (List.forall_mem_singleton.2 rfl),
    .place [' '] ['a'] ['\n'] (isPath_letter rfl rfl) (List.forall_mem_singleton.2 rfl)
      (List.forall_mem_singleton.2 rfl),
    .place [] ['b'] [] (isPath_letter rfl rfl) nofun nofun,
    .place [] ['c'] [' '] (isPath_letter rfl rfl) nofun (List.forall_mem_singleton.2 rfl)]

/-- What is put in stays as it is, and so does the placeholder without a value. -/
theorem fill_nestedTemplate :
    tokenBody? (templateOf nestedTemplate) = none ∧
    fill nestedContext (.text "x\x7b\x7b a\n\x7d\x7d\x7b\x7bb\x7d\x7d\x7b\x7bc \x7d\x7d") =
      .ok (.text "x\x7b\x7bb\x7d\x7d##VAR:unquoted:a##\x7b\x7bc \x7d\x7d") := by
  have htoken : tokenBody? (templateOf nestedTemplate) = none := by decide
  have hparts : List.Forall₂ (Becomes nestedContext) nestedTemplate
      [['x'], "\x7b\x7bb\x7d\x7d".toList, "##VAR:unquoted:a##".toList,
        placeholder ['c', ' ']] :=
    .cons .chunk (.cons (.value (by cbv) rfl) (.cons (.value (by cbv) rfl)
      (.cons (.missing (by cbv)) .nil)))
  exact ⟨htoken, ((fill_segments nestedContext htoken).2 _).2 ⟨_, hparts, rfl⟩⟩

end ApiJourney.Template
