import Mathlib.Data.List.Forall2
import QueryDesk.Proofs.Tokens.Completeness
import QueryDesk.Proofs.Tokens.Tiling

/-!
# Sources with other blanks

The blanks of a source may be any others of Unicode, in every run of them that is there: between
tokens, and between the words of a phrase. `Reflowed` is this relation of token lists. Such tokens are
those of the text that they make up (`Reflowed.split_concat`), so no phrase, number, word, string or
comment begins or ends anywhere else, and whether a statement is complete stays what it was
(`layout_independent`). Blanks inside of comments, strings and quoted identifiers are left alone, the
line feed of a line comment among them.
-/

set_option autoImplicit false

namespace QueryDesk.Sql

open Text

/-- The same text with other blanks, as many runs of them as before. -/
inductive Regapped : Text → Text → Prop
  | nil : Regapped [] []
  | visible {c : Char} {t t' : Text} : isBlank c = false → Regapped t t' →
      Regapped (c :: t) (c :: t')
  | gap {gap gap' t t' : Text} : gap ≠ [] → gap' ≠ [] → AllBlank gap → AllBlank gap' →
      Regapped t t' → Regapped (gap ++ t) (gap' ++ t')

theorem glance_gaps {gap gap' after after' : Text} (full : gap ≠ []) (full' : gap' ≠ [])
    (blank : AllBlank gap) (blank' : AllBlank gap') (same : glance after = glance after') :
    glance (gap ++ after) = glance (gap' ++ after') := by
  rw [glance_gap_append full blank, glance_gap_append full' blank', same]

theorem glance_regapped {t t' after after' : Text} (regapped : Regapped t t')
    (same : glance after = glance after') : glance (t ++ after) = glance (t' ++ after') := by
  induction regapped with
  | nil => exact same
  | visible _ _ ih => exact glance_congr ih [_]
  | gap full full' blank blank' _ ih =>
    rw [List.append_assoc, List.append_assoc]
    exact glance_gaps full full' blank blank' ih

/-- A phrase is spelled with any gaps between its words. -/
theorem Spells.regapped {p : Phrase} {t t' : Text} (spelled : Spells p t)
    (formed : p.WellFormed) (regapped : Regapped t t') : Spells p t' := by
  obtain ⟨lexeme, after, shape, spelled', look⟩ :=
    spelled.alike formed (glance_regapped regapped (rfl : glance [] = glance []))
  have none : after = [] := glance_eq_nil look.symm
  rw [none, List.append_nil, List.append_nil] at shape
  exact shape ▸ spelled'

/-- The same token, but for the gaps inside of a phrase. -/
structure Token.Alike (t t' : Token) : Prop where
  kind : t.kind = t'.kind
  text : t.kind ≠ .keywordPhrase → t.text = t'.text
  gaps : t.kind = .keywordPhrase → Regapped t.text t'.text

/-- The same tokens with other blanks, wherever there are blanks between them or in a phrase. -/
inductive Reflowed : List Token → List Token → Prop
  | nil : Reflowed [] []
  | gap {gap gap' : Text} {ts ts' : List Token} : gap ≠ [] → gap' ≠ [] → AllBlank gap →
      AllBlank gap' → Reflowed ts ts' → Reflowed (gapTokens gap ++ ts) (gapTokens gap' ++ ts')
  | token {t t' : Token} {ts ts' : List Token} : t.isGap = false → t.Alike t' →
      Reflowed ts ts' → Reflowed (t :: ts) (t' :: ts')

/-- A source, and one with other blanks around its tokens and in its phrases. -/
def Reflows (source source' : Text) : Prop :=
  ∃ tokens, Reflowed (Token.split source) tokens ∧ Token.concat tokens = source'

variable {t t' : Token} {ts ts' : List Token}

/-- A token can be read with other gaps before any text that looks as the one behind it. -/
theorem Token.Alike.obeys (alike : t.Alike t') {after after' : Text}
    (same : glance after = glance after') (obeys : Obeys Phrase.all [] t after) :
    Obeys Phrase.all [] t' after' ∧ glance (t.text ++ after) = glance (t'.text ++ after') := by
  obtain ⟨kind, text⟩ := t
  obtain ⟨kind', text'⟩ := t'
  obtain rfl : kind = kind' := alike.kind
  by_cases phrase : kind = .keywordPhrase
  case pos =>
    subst phrase
    obtain ⟨p, member, spelled, ends⟩ := obeys.spells rfl
    have regapped : Regapped text text' := alike.gaps rfl
    have formed := Phrase.table_all.wellFormed p member
    have ends' := (startsWithWord_eq_of_glance same).symm.trans ends
    exact ⟨obeys_phrase member (spelled.regapped formed regapped) ends', glance_regapped regapped same⟩
  case neg =>
    obtain rfl : text = text' := alike.text phrase
    exact ⟨obeys.alike Phrase.table_all same, glance_congr same text⟩

/-- Step by step from the end: what stands behind a token looks the same to it. -/
theorem Reflowed.stands (reflowed : Reflowed ts ts') (stands : Stands Phrase.all ts) :
    Stands Phrase.all ts' ∧ glance (Token.concat ts) = glance (Token.concat ts') := by
  induction reflowed with
  | nil => exact ⟨trivial, rfl⟩
  | gap full full' blank blank' _ ih =>
    rw [stands_gapTokens Phrase.table_all blank] at stands
    obtain ⟨stands', same⟩ := ih stands
    refine ⟨(stands_gapTokens Phrase.table_all blank' _).2 stands', ?_⟩
    rw [Token.concat_append, Token.concat_append, Spaced.concat_gapTokens,
      Spaced.concat_gapTokens]
    exact glance_gaps full full' blank blank' same
  | token _ alike _ ih =>
    obtain ⟨obeys, stands⟩ := stands
    obtain ⟨stands', same⟩ := ih stands
    obtain ⟨obeys', look⟩ := alike.obeys same obeys
    exact ⟨⟨obeys', stands'⟩, look⟩

/-- The tokens of a source with other blanks are its tokens with other blanks. -/
theorem Reflowed.split_concat {source : Text} (reflowed : Reflowed (Token.split source) ts) :
    Token.split (Token.concat ts) = ts :=
  Token.split_eq_iff_stands.2 ⟨rfl, (reflowed.stands (stands_split source)).1⟩

/-- What is said of no gap, and of a token whatever its gaps are, is said of the same tokens. -/
theorem Reflowed.filter {p : Token → Bool} (reflowed : Reflowed ts ts')
    (gaps : ∀ t, t.isGap = true → p t = false)
    (same : ∀ t t' : Token, t.Alike t' → p t = p t') :
    List.Forall₂ Token.Alike (ts.filter p) (ts'.filter p) := by
  induction reflowed with
  | nil => exact .nil
  | gap _ _ blank blank' _ ih =>
    rw [List.filter_append, List.filter_append, filter_gapTokens_eq_nil gaps blank,
      filter_gapTokens_eq_nil gaps blank']
    exact ih
  | @token t t' ts ts' _ alike _ ih =>
    rw [List.filter_cons, List.filter_cons, ← same t t' alike]
    split
    · exact .cons alike ih
    · exact ih

namespace Token

theorem isGap_of_phrase (phrase : t.kind = .keywordPhrase) : t.isGap = false := by
  rw [isGap, phrase]
  rfl

/-- What is the same of two phrases is the same of two tokens that are alike. -/
theorem Alike.congr {p : Token → Bool} (phrases : ∀ t t' : Token, t.kind = .keywordPhrase →
    t'.kind = .keywordPhrase → p t = p t') (alike : t.Alike t') : p t = p t' := by
  by_cases phrase : t.kind = .keywordPhrase
  case pos => exact phrases t t' phrase (alike.kind.symm.trans phrase)
  case neg =>
    obtain ⟨kind, text⟩ := t
    obtain ⟨kind', text'⟩ := t'
    obtain rfl : kind = kind' := alike.kind
    obtain rfl : text = text' := alike.text phrase
    rfl

theorem Alike.isGap (alike : t.Alike t') : t.isGap = t'.isGap :=
  alike.congr fun _ _ phrase phrase' =>
    (isGap_of_phrase phrase).trans (isGap_of_phrase phrase').symm

theorem Alike.isSignificant (alike : t.Alike t') : t.isSignificant = t'.isSignificant :=
  alike.congr fun _ _ phrase phrase' => by
    rw [Token.isSignificant, Token.isSignificant, phrase, phrase']

theorem Alike.isSemicolon (alike : t.Alike t') : t.isSemicolon = t'.isSemicolon :=
  alike.congr fun _ _ phrase phrase' => by
    rw [not_isSemicolon_of_kind (by simp [phrase]), not_isSemicolon_of_kind (by simp [phrase'])]

end Token

theorem endsInSemicolon_reflowed (reflowed : Reflowed ts ts') :
    endsInSemicolon ts = endsInSemicolon ts' := by
  have counted := reflowed.filter (p := Token.isSignificant)
    (fun _ => Token.isSignificant_of_isGap) (fun _ _ => Token.Alike.isSignificant)
  have marks : (ts.filter Token.isSignificant).map Token.isSemicolon =
      (ts'.filter Token.isSignificant).map Token.isSemicolon := by
    rw [← List.forall₂_eq_eq_eq, List.forall₂_map_left_iff, List.forall₂_map_right_iff]
    exact counted.imp fun _ _ => Token.Alike.isSemicolon
  have last (us : List Token) :
      us.getLast?.any Token.isSemicolon = (us.map Token.isSemicolon).getLast?.any id := by
    rw [List.getLast?_map, Option.any_map]
    rfl
  rw [endsInSemicolon, endsInSemicolon, last, last, marks]

/-- The spans of a source but for the blanks between them. -/
def Span.solid (source : Text) : List Span :=
  (raw source).filter fun s => !(s.token source).isGap

theorem Span.map_token_solid (source : Text) :
    (solid source).map (token source) = (Token.split source).filter fun t => !t.isGap := by
  rw [← map_token_raw, List.filter_map]
  rfl

/-- Where only blanks are put in the place of blanks, between tokens and in phrases, the same tokens
are read: other than blanks, the spans are of the same classes in the same order, and of the same
texts but for the gaps of phrases. Whether a statement is complete stays what it was. -/
theorem layout_independent {source source' : Text} (reflows : Reflows source source') :
    Reflowed (Token.split source) (Token.split source') ∧
      List.Forall₂ (fun s s' => (s.token source).Alike (s'.token source'))
        (Span.solid source) (Span.solid source') ∧
      isComplete source' = isComplete source := by
  obtain ⟨tokens, reflowed, rfl⟩ := reflows
  rw [reflowed.split_concat]
  refine ⟨reflowed, ?_, ?_⟩
  · rw [← List.forall₂_map_right_iff, ← List.forall₂_map_left_iff, Span.map_token_solid,
      Span.map_token_solid, reflowed.split_concat]
    refine reflowed.filter (fun t gap => by rw [gap]; rfl) fun _ _ alike => ?_
    rw [alike.isGap]
  · rw [isComplete_eq, isComplete_eq, reflowed.split_concat]
    exact (endsInSemicolon_reflowed reflowed).symm

/-- A phrase stays one with other gaps, and the line feed after it stays with its comment. -/
theorem layout_independent_phrase :
    Reflows "IS NULL-- b\n ;".toList "IS\u00a0\nNULL-- b\n\t\t;".toList ∧
      Reflowed (Token.split "IS NULL-- b\n ;".toList)
        (Token.split "IS\u00a0\nNULL-- b\n\t\t;".toList) ∧
      isComplete "IS\u00a0\nNULL-- b\n\t\t;".toList = true := by
  have blank {gap : Text} (all : gap.all isBlank = true) : AllBlank gap := List.all_eq_true.1 all
  have null : Regapped "NULL".toList "NULL".toList :=
    .visible (by decide) (.visible (by decide) (.visible (by decide) (.visible (by decide) .nil)))
  have phrase : Token.Alike ⟨.keywordPhrase, "IS NULL".toList⟩
      ⟨.keywordPhrase, "IS\u00a0\nNULL".toList⟩ := by
    refine ⟨rfl, fun other => absurd rfl other, fun _ => ?_⟩
    exact .visible (by decide) (.visible (by decide) (@Regapped.gap [' '] ['\u00a0', '\n'] _ _
      (by decide) (by decide) (blank (by decide)) (blank (by decide)) null))
  have same (t : Token) (word : t.kind ≠ .keywordPhrase) : t.Alike t :=
    ⟨rfl, fun _ => rfl, fun other => absurd other word⟩
  have tokens : Token.split "IS NULL-- b\n ;".toList =
      ⟨.keywordPhrase, "IS NULL".toList⟩ :: ⟨.comment, "-- b\n".toList⟩ ::
        (gapTokens [' '] ++ [semicolon]) := by
    decide +kernel
  have reflows : Reflows "IS NULL-- b\n ;".toList "IS\u00a0\nNULL-- b\n\t\t;".toList := by
    refine ⟨⟨.keywordPhrase, "IS\u00a0\nNULL".toList⟩ :: ⟨.comment, "-- b\n".toList⟩ ::
      (gapTokens ['\t', '\t'] ++ [semicolon]), ?_, by decide⟩
    rw [tokens]
    exact .token rfl phrase (.token rfl (same _ (by decide)) (.gap (by decide) (by decide)
      (blank (by decide)) (blank (by decide)) (.token rfl (same _ (by decide)) .nil)))
  have kept := layout_independent reflows
  exact ⟨reflows, kept.1, kept.2.2.trans (by decide +kernel)⟩

end QueryDesk.Sql
