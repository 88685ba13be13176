-- SUMMARY: Templates that may be filled from one context first and from another one after it.
import ApiJourney.Proofs.Outcome
import ApiJourney.Proofs.Template.Placeholder

/-!
# Filling twice

A template can be filled early, from a context that does not know everything yet, and what is
left of it late. That is as filling it late alone where what is known early has the same text
late, and where no text that is put in makes a placeholder or a token with what stands around
it.
-/

namespace ApiJourney.Template

open ApiJourney.Text

variable {context early late : Value}

/-! ## Inert texts -/

/-- No placeholder begins in a text that stands before a rest. -/
def Inert (rest : List Char) : List Char → Prop
  | [] => True
  | c :: cs => placeholder? (c :: (cs ++ rest)) = none ∧ Inert rest cs

instance decidableInert (rest : List Char) : (cs : List Char) → Decidable (Inert rest cs)
  | [] => .isTrue trivial
  | c :: cs =>
    have := decidableInert rest cs
    inferInstanceAs (Decidable (placeholder? (c :: (cs ++ rest)) = none ∧ Inert rest cs))

/-- An inert text stays as it is. -/
theorem fillFrom_inert (context : Value) {cs rest : List Char} (h : Inert rest cs) :
    fillFrom context 0 (cs ++ rest) = (fillFrom context 0 rest).map (cs ++ ·) := by
  induction cs with
  | nil =>
    rw [List.nil_append]
    cases fillFrom context 0 rest <;> rfl
  | cons c cs ih =>
    rw [List.cons_append, fillFrom_cons_none h.1, ih h.2]
    cases fillFrom context 0 rest <;> rfl

/-- An inert text that is no token stays as it is. -/
theorem fillText_inert (context : Value) {s : String} (h : Inert [] s.toList)
    (htoken : tokenBody? s.toList = none) : fillText context s = .ok (.text s) := by
  have hsame := fillFrom_inert context h
  rw [List.append_nil] at hsame
  rw [fillText, htoken, hsame, fillFrom]
  simp [Except.map]

/-! ## Pieces -/

/-- A piece of a template: written text, or a placeholder. -/
inductive Piece where
  | written (cs : List Char)
  | hole (content : List Char)

def Piece.text : Piece → List Char
  | written cs => cs
  | hole content => placeholder content

def textOfPieces (ps : List Piece) : List Char :=
  ps.flatMap Piece.text

@[simp] theorem textOfPieces_nil : textOfPieces [] = [] := rfl

@[simp] theorem textOfPieces_cons (p : Piece) (ps : List Piece) :
    textOfPieces (p :: ps) = p.text ++ textOfPieces ps := rfl

/-- What pieces are once they were filled early. A placeholder whose value is known has the same
    text early and late, and one that leads nowhere early stays. No other placeholder begins in
    what is written, nor in what was put in. -/
inductive PiecesSettle (early late : Value) : List Piece → List Piece → Prop where
  | nil : PiecesSettle early late [] []
  | written {cs : List Char} {ps qs : List Piece} :
      Inert (textOfPieces ps) cs → Inert (textOfPieces qs) cs →
      PiecesSettle early late ps qs →
      PiecesSettle early late (.written cs :: ps) (.written cs :: qs)
  | known {content : List Char} {v w : Value} {t : String} {ps qs : List Piece} :
      Content content →
      lookup? early (pathOf content) = .ok (some v) → Template.textOf v = .ok t →
      lookup? late (pathOf content) = .ok (some w) → Template.textOf w = .ok t →
      Inert (textOfPieces qs) t.toList →
      PiecesSettle early late ps qs →
      PiecesSettle early late (.hole content :: ps) (.written t.toList :: qs)
  | unknown {content : List Char} {ps qs : List Piece} :
      Content content → lookup? early (pathOf content) = .ok none →
      PiecesSettle early late ps qs →
      PiecesSettle early late (.hole content :: ps) (.hole content :: qs)

theorem fillHole_known {content : List Char} {v : Value} {t : String}
    (hv : lookup? context (pathOf content) = .ok (some v)) (ht : textOf v = .ok t) :
    fillHole context content = .ok t.toList := by
  rw [fillHole, fillPath, hv]
  exact congrArg (Except.map String.toList) ht

theorem fillHole_unknown {content : List Char}
    (h : lookup? context (pathOf content) = .ok none) :
    fillHole context content = .ok (placeholder content) := by
  rw [fillHole, fillPath, h]
  rfl

namespace PiecesSettle

variable {ps qs : List Piece}

theorem fillFrom_early (h : PiecesSettle early late ps qs) :
    fillFrom early 0 (textOfPieces ps) = .ok (textOfPieces qs) := by
  induction h with
  | nil => rfl
  | written hinert _ _ ih =>
    rw [textOfPieces_cons, Piece.text, fillFrom_inert early hinert, ih]
    rfl
  | known hcontent hv ht _ _ _ _ ih =>
    rw [textOfPieces_cons, Piece.text, fillFrom_placeholder early hcontent,
      fillHole_known hv ht, ih]
    rfl
  | unknown hcontent hnone _ ih =>
    rw [textOfPieces_cons, Piece.text, fillFrom_placeholder early hcontent,
      fillHole_unknown hnone, ih]
    rfl

theorem fillFrom_late (h : PiecesSettle early late ps qs) :
    fillFrom late 0 (textOfPieces qs) = fillFrom late 0 (textOfPieces ps) := by
  induction h with
  | nil => rfl
  | written hinert hinert' _ ih =>
    rw [textOfPieces_cons, textOfPieces_cons, Piece.text, fillFrom_inert late hinert,
      fillFrom_inert late hinert', ih]
  | @known _ _ _ _ ps _ hcontent _ _ hw ht hinert _ ih =>
    rw [textOfPieces_cons, textOfPieces_cons, Piece.text, Piece.text, fillFrom_inert late hinert,
      fillFrom_placeholder late hcontent, fillHole_known hw ht, ih]
    cases fillFrom late 0 (textOfPieces ps) <;> rfl
  | unknown hcontent _ _ ih =>
    rw [textOfPieces_cons, textOfPieces_cons, Piece.text, fillFrom_placeholder late hcontent,
      fillFrom_placeholder late hcontent, ih]

end PiecesSettle

/-! ## Templates -/

/-- What a template is once it was filled early. Its placeholders settle and make no token with
    the text around them; or it is a token that stands for the same text early and late, in
    which there is nothing to fill; or a token without a kind, which is no template. -/
inductive Settles (early late : Value) : String → String → Prop where
  | placeholders {s t : String} {ps qs : List Piece} :
      PiecesSettle early late ps qs →
      s.toList = textOfPieces ps → t.toList = textOfPieces qs →
      tokenBody? s.toList = none → tokenBody? t.toList = none →
      Settles early late s t
  | token {s t : String} {body kind path : List Char} :
      tokenBody? s.toList = some body → split [':'] (some 1) body = [kind, path] →
      fillToken early kind path = .ok (.text t) → fillToken late kind path = .ok (.text t) →
      tokenBody? t.toList = none → Inert [] t.toList →
      Settles early late s t
  | malformed {s : String} {body : List Char} :
      tokenBody? s.toList = some body →
      (∀ kind path, split [':'] (some 1) body ≠ [kind, path]) →
      Settles early late s s

namespace Settles

variable {s t : String}

/-- A text in which there is nothing to fill settles as it is. -/
theorem of_inert (h : Inert [] s.toList) (htoken : tokenBody? s.toList = none) :
    Settles early late s s := by
  have hpieces : PiecesSettle early late [.written s.toList] [.written s.toList] :=
    .written h h .nil
  exact .placeholders hpieces (by simp [Piece.text]) (by simp [Piece.text]) htoken htoken

theorem fillText_early (h : Settles early late s t) : fillText early s = .ok (.text t) := by
  cases h with
  | placeholders hpieces hs ht htoken _ =>
    rw [fillText, htoken, hs, hpieces.fillFrom_early, ← ht]
    simp [Except.map]
  | token htoken hparts hearly _ _ _ =>
    rw [fillText, htoken]
    dsimp only
    rw [hparts]
    exact hearly
  | malformed htoken hparts =>
    rw [fillText, htoken]
    dsimp only
    split
    · next hkind => exact absurd hkind (hparts _ _)
    · rfl

/-- What is left of the template becomes what the template becomes. -/
theorem fillText_late (h : Settles early late s t) : fillText late t = fillText late s := by
  cases h with
  | placeholders hpieces hs ht htoken htoken' =>
    rw [fillText, fillText, htoken, htoken', hs, ht, hpieces.fillFrom_late]
  | token htoken hparts _ hlate htoken' hinert =>
    rw [fillText_inert late hinert htoken', fillText, htoken]
    dsimp only
    rw [hparts]
    exact hlate.symm
  | malformed => rfl

end Settles

end ApiJourney.Template
