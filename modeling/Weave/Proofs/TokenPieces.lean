import Weave.Declaration.Token
import Weave.Proofs.Compaction
import Mathlib.Data.List.Chain

/-! The pieces that tokens are spelled with. Two rows of pieces are the same only if the tokens are, since
round brackets have to close. A row that a type could be made of keeps to the conditions under which names
are made compact, and such rows can be put behind each other and into brackets. -/

namespace Weave.Declaration

open Piece

/-! ### Tokens and pieces -/

def isNameText (text : String) : Bool :=
  !text.toList.isEmpty && text.toList.all fun c => isPlain c && c ≠ '\''

def isLifetimeText (text : String) : Bool :=
  text.toList.head? = some '\'' && text.toList.all isPlain

/-- The pieces that tokens are spelled with. -/
inductive Spells : List Token → List Piece → Prop where
  | nil : Spells [] []
  | word {text : String} {tokens : List Token} {pieces : List Piece} (named : isNameText text = true)
      (rest : Spells tokens pieces) : Spells (.word text :: tokens) (.word text.toList :: pieces)
  | lifetime {text : String} {tokens : List Token} {pieces : List Piece}
      (named : isLifetimeText text = true) (rest : Spells tokens pieces) :
      Spells (.lifetime text :: tokens) (.word text.toList :: pieces)
  | colons {tokens : List Token} {pieces : List Piece} (rest : Spells tokens pieces) :
      Spells (.mark ':' true :: .mark ':' false :: tokens) (.mark .colons :: pieces)
  | sign (sign : Sign) {tokens : List Token} {pieces : List Piece}
      (alone : sign ∈ [Sign.less, .greater, .comma, .ampersand]) (rest : Spells tokens pieces) :
      Spells (.mark sign.first false :: tokens) (.mark sign :: pieces)
  | group {content tokens : List Token} {inner pieces : List Piece} (inside : Spells content inner)
      (rest : Spells tokens pieces) :
      Spells (.group .round content :: tokens) (.mark .opening :: (inner ++ .mark .closing :: pieces))

namespace Spells

variable {tokens others : List Token} {pieces rest otherPieces otherRest : List Piece}

theorem append (spells : Spells tokens pieces) (behind : Spells others rest) :
    Spells (tokens ++ others) (pieces ++ rest) := by
  induction spells with
  | nil => exact behind
  | word named _ ih => exact ih.word named
  | lifetime named _ ih => exact ih.lifetime named
  | colons _ ih => exact ih.colons
  | sign sign alone _ ih => exact ih.sign sign alone
  | group inside _ _ ih =>
    have whole := inside.group ih
    simpa only [List.cons_append, List.append_assoc] using whole

theorem sound_word {text : String} (named : isNameText text = true) :
    (Piece.word text.toList).Sound := by
  rw [isNameText, Bool.and_eq_true, List.all_eq_true] at named
  refine ⟨?_, fun c member => ?_⟩
  · simpa using named.1
  · exact (Bool.and_eq_true_iff.1 (named.2 c member)).1

theorem sound_lifetime {text : String} (named : isLifetimeText text = true) :
    (Piece.word text.toList).Sound := by
  rw [isLifetimeText, Bool.and_eq_true, List.all_eq_true] at named
  refine ⟨?_, named.2⟩
  intro empty
  rw [empty] at named
  exact absurd named.1 (by decide)

theorem sound (spells : Spells tokens pieces) : ∀ piece ∈ pieces, piece.Sound := by
  induction spells with
  | nil => exact fun piece none => absurd none List.not_mem_nil
  | word named _ ih => exact List.forall_mem_cons.2 ⟨sound_word named, ih⟩
  | lifetime named _ ih => exact List.forall_mem_cons.2 ⟨sound_lifetime named, ih⟩
  | colons _ ih | sign _ _ _ ih => exact List.forall_mem_cons.2 ⟨sound_mark _, ih⟩
  | group _ _ inside ih =>
    have later := List.forall_mem_append.2 ⟨inside, List.forall_mem_cons.2 ⟨sound_mark .closing, ih⟩⟩
    exact List.forall_mem_cons.2 ⟨sound_mark .opening, later⟩

theorem spaced_cons (spells : Spells tokens pieces) {piece : Piece} (outside : piece ≠ mark .opening) :
    Layout.loose.spaced (piece :: pieces) =
      piece.text ++ ((if tokens.isEmpty then [] else [' ']) ++ Layout.loose.spaced pieces) := by
  rw [Layout.spaced_cons]
  congr 1
  cases spells with
  | nil => rfl
  | word | lifetime | colons | group =>
    exact congrArg (· ++ _) (Layout.gap_loose outside (by simp))
  | sign _ alone =>
    refine congrArg (· ++ _) (Layout.gap_loose outside ?_)
    rintro ⟨⟩
    simp at alone

theorem spellingAll_cons {token : Token} (alone : token.isJoint = false) (rest : List Token) :
    Token.spellingAll (token :: rest) =
      token.spelling ++ ((if rest.isEmpty then [] else [' ']) ++ Token.spellingAll rest) := by
  rw [Token.spellingAll, alone, Bool.or_false, List.append_assoc]

theorem spelling (spells : Spells tokens pieces) :
    Token.spellingAll tokens = Layout.loose.spaced pieces := by
  induction spells with
  | nil => rfl
  | word named rest ih | lifetime named rest ih =>
    rw [spellingAll_cons rfl, ih, rest.spaced_cons (by simp)]
    rfl
  | sign sign alone rest ih =>
    have alike : mark sign ≠ mark .opening ∧ sign.text = [sign.first] := by
      cases sign with
      | less | greater | comma | ampersand => exact ⟨by simp, rfl⟩
      | colons | opening | closing => simp at alone
    rw [spellingAll_cons rfl, ih, rest.spaced_cons alike.1, text_mark, alike.2]
    rfl
  | colons rest ih =>
    rw [Token.spellingAll, spellingAll_cons rfl, ih, rest.spaced_cons (by simp)]
    rfl
  | @group content _ inner pieces inside rest innerIh ih =>
    rw [spellingAll_cons rfl, ih, Layout.spaced_cons, Layout.behind_tight (by decide),
      Layout.spaced_append (by decide), rest.spaced_cons (by simp), ← innerIh]
    simp [Token.spelling, Delimiter.opening, Delimiter.closing, Sign.text, Sign.first, Sign.more]

theorem name_ne_lifetime {text lifetime : String} (named : isNameText text = true)
    (marked : isLifetimeText lifetime = true) : text.toList ≠ lifetime.toList := by
  intro same
  rw [isNameText, Bool.and_eq_true, List.all_eq_true] at named
  rw [isLifetimeText, Bool.and_eq_true, decide_eq_true_eq, ← same] at marked
  have apostrophe := named.2 _ (List.mem_of_head? marked.1)
  exact absurd apostrophe (by decide)

theorem closes {piece : Piece} (closed : ∀ first ∈ otherRest.head?, first = mark .closing)
    (same : piece :: rest = otherRest) : piece = mark .closing :=
  closed piece (same ▸ rfl)

/-- The pieces show the tokens, since round brackets close where they must. -/
theorem unique (spells : Spells tokens pieces) (other : Spells others otherPieces)
    (closed : ∀ first ∈ rest.head?, first = mark .closing)
    (otherClosed : ∀ first ∈ otherRest.head?, first = mark .closing)
    (same : pieces ++ rest = otherPieces ++ otherRest) : tokens = others ∧ rest = otherRest := by
  induction spells generalizing others otherPieces rest otherRest with
  | nil =>
    cases other with
    | nil => exact ⟨rfl, same⟩
    | word | lifetime | colons | group => exact absurd (closes closed same.symm) (by simp)
    | sign _ alone =>
      have closing := Piece.mark.inj (closes closed same.symm)
      simp [closing] at alone
  | word named _ ih =>
    cases other with
    | nil => exact absurd (closes otherClosed same) (by simp)
    | word _ there =>
      simp only [List.cons_append, List.cons.injEq, word.injEq, String.toList_inj] at same
      obtain ⟨rfl, equal⟩ := ih there closed otherClosed same.2
      exact ⟨by rw [same.1], equal⟩
    | lifetime marked => simp [name_ne_lifetime named marked] at same
    | colons | sign | group => simp at same
  | lifetime marked _ ih =>
    cases other with
    | nil => exact absurd (closes otherClosed same) (by simp)
    | word named => simp [(name_ne_lifetime named marked).symm] at same
    | lifetime _ there =>
      simp only [List.cons_append, List.cons.injEq, word.injEq, String.toList_inj] at same
      obtain ⟨rfl, equal⟩ := ih there closed otherClosed same.2
      exact ⟨by rw [same.1], equal⟩
    | colons | sign | group => simp at same
  | colons _ ih =>
    cases other with
    | nil => exact absurd (closes otherClosed same) (by simp)
    | word | lifetime | group => simp at same
    | colons there =>
      obtain ⟨rfl, equal⟩ := ih there closed otherClosed (List.cons.inj same).2
      exact ⟨rfl, equal⟩
    | sign _ alone =>
      simp only [List.cons_append, List.cons.injEq, mark.injEq] at same
      simp [← same.1] at alone
  | sign _ alone _ ih =>
    cases other with
    | nil =>
      have closing := Piece.mark.inj (closes otherClosed same)
      simp [closing] at alone
    | word | lifetime => simp at same
    | colons | group =>
      simp only [List.cons_append, List.cons.injEq, mark.injEq] at same
      simp [same.1] at alone
    | sign _ _ there =>
      simp only [List.cons_append, List.cons.injEq, mark.injEq] at same
      obtain ⟨rfl, equal⟩ := ih there closed otherClosed same.2
      exact ⟨by rw [same.1], equal⟩
  | group _ _ innerIh ih =>
    cases other with
    | nil => exact absurd (closes otherClosed same) (by simp)
    | word | lifetime | colons => simp at same
    | sign _ alone =>
      simp only [List.cons_append, List.cons.injEq, mark.injEq] at same
      simp [← same.1] at alone
    | group inside there =>
      simp only [List.cons_append, List.append_assoc, List.cons.injEq, true_and] at same
      obtain ⟨rfl, behind⟩ := innerIh inside (by simp) (by simp) same
      obtain ⟨rfl, equal⟩ := ih there closed otherClosed (List.cons.inj behind).2
      exact ⟨rfl, equal⟩

end Spells

/-! ### Rows of pieces -/

namespace Piece

variable {piece next : Piece} {pieces rest : List Piece}

theorem Links.of_starts (starts : next.Starts) : Links piece next where
  behind one := by rcases one with rfl | rfl <;> exact starts.elim
  colons _ := starts
  less _ := by
    rintro rfl
    exact starts

theorem Links.of_ends (ends : piece.Ends) : Links piece next where
  behind _ := ends
  colons := by
    rintro rfl
    exact ends.elim
  less := by
    rintro rfl
    exact ends.elim

/-- A row of pieces that could stand in brackets: nothing, or one that starts like a type and ends like
one or with a comma. -/
structure Listing (pieces : List Piece) : Prop where
  sound : ∀ piece ∈ pieces, piece.Sound
  linked : pieces.IsChain Links
  starts : ∀ first ∈ pieces.head?, first.Starts
  ends : ∀ last ∈ pieces.getLast?, last.Ends ∨ last = mark .comma

theorem Listing.nil : Listing [] := ⟨by simp, List.isChain_nil, by simp, by simp⟩

theorem Phrase.listing (phrase : Phrase pieces) : Listing pieces where
  sound := phrase.sound
  linked := phrase.linked
  starts first found := by
    obtain ⟨_, same, starts⟩ := phrase.starts
    rw [same] at found
    cases found
    exact starts
  ends last found := by
    obtain ⟨_, same, ends⟩ := phrase.ends
    rw [same] at found
    cases found
    exact .inl ends

theorem Phrase.ne_nil (phrase : Phrase pieces) : pieces ≠ [] := by
  rintro rfl
  obtain ⟨_, none, -⟩ := phrase.starts
  cases none

theorem Phrase.cons (phrase : Phrase pieces) (sound : piece.Sound) (starts : piece.Starts) :
    Phrase (piece :: pieces) where
  sound := List.forall_mem_cons.2 ⟨sound, phrase.sound⟩
  linked := List.isChain_cons.2 ⟨fun _ found => .of_starts (phrase.listing.starts _ found), phrase.linked⟩
  starts := ⟨piece, rfl, starts⟩
  ends := by
    obtain ⟨last, found, ends⟩ := phrase.ends
    exact ⟨last, by simp [List.getLast?_cons, found], ends⟩

theorem linked_between {sign : Sign} (linked : pieces.IsChain Links) (more : rest.IsChain Links)
    (before : ∀ last ∈ pieces.getLast?, Links last (mark sign))
    (after : ∀ first ∈ rest.head?, Links (mark sign) first) :
    (pieces ++ mark sign :: rest).IsChain Links := by
  refine List.isChain_append.2 ⟨linked, List.isChain_cons.2 ⟨after, more⟩, ?_⟩
  intro last found first same
  cases same
  exact before last found

theorem Phrase.join (phrase : Phrase pieces) (more : Phrase rest) :
    Phrase (pieces ++ mark .colons :: rest) where
  sound := List.forall_mem_append.2 ⟨phrase.sound, List.forall_mem_cons.2 ⟨sound_mark _, more.sound⟩⟩
  linked := by
    obtain ⟨last, found, ends⟩ := phrase.ends
    refine linked_between phrase.linked more.linked ?_ fun first same =>
      .of_starts (more.listing.starts first same)
    intro other same
    rw [found] at same
    cases same
    exact .of_ends ends
  starts := by
    obtain ⟨first, found, starts⟩ := phrase.starts
    exact ⟨first, by rw [List.head?_append, found, Option.some_or], starts⟩
  ends := by
    obtain ⟨last, found, ends⟩ := more.ends
    exact ⟨last, by simp [List.getLast?_append, List.getLast?_cons, found], ends⟩

theorem Listing.link (listing : Listing pieces) {sign : Sign} (colons : sign ≠ .colons)
    (less : sign ≠ .less) : ∀ last ∈ pieces.getLast?, Links last (mark sign) := by
  intro last found
  rcases listing.ends last found with ends | rfl
  · exact .of_ends ends
  · exact ⟨by simp [colons, less], by simp, by simp⟩

theorem Listing.cons (phrase : Phrase pieces) (more : Listing rest) :
    Listing (pieces ++ mark .comma :: rest) where
  sound := List.forall_mem_append.2 ⟨phrase.sound, List.forall_mem_cons.2 ⟨sound_mark _, more.sound⟩⟩
  linked := linked_between phrase.linked more.linked (phrase.listing.link (by decide) (by decide))
    fun first found => .of_starts (more.starts first found)
  starts first found := by
    obtain ⟨_, same, starts⟩ := phrase.starts
    rw [List.head?_append, same, Option.some_or] at found
    cases found
    exact starts
  ends last found := by
    rw [List.getLast?_append, List.getLast?_cons, Option.some_or] at found
    cases inner : rest.getLast? with
    | none =>
      rw [inner] at found
      cases found
      exact .inr rfl
    | some behind =>
      rw [inner] at found
      cases found
      exact more.ends _ inner

theorem Listing.closed (listing : Listing pieces) {start sign : Sign} (colons : sign ≠ .colons)
    (less : sign ≠ .less) (fits : Links (mark start) (mark sign)) :
    (mark start :: (pieces ++ [mark sign])).IsChain Links := by
  have inner := linked_between listing.linked List.isChain_nil (listing.link colons less) (by simp)
  refine List.isChain_cons.2 ⟨?_, inner⟩
  intro first found
  rw [List.head?_append] at found
  cases front : pieces.head? with
  | none =>
    rw [front] at found
    cases found
    exact fits
  | some piece =>
    rw [front] at found
    cases found
    exact .of_starts (listing.starts _ front)

theorem Listing.grouped (listing : Listing pieces) :
    Phrase (mark .opening :: (pieces ++ [mark .closing])) where
  sound := List.forall_mem_cons.2 ⟨sound_mark _, List.forall_mem_append.2
    ⟨listing.sound, List.forall_mem_singleton.2 (sound_mark _)⟩⟩
  linked := listing.closed (by decide) (by decide) ⟨by simp, by simp, by simp⟩
  starts := ⟨_, rfl, trivial⟩
  ends := ⟨mark .closing, by rw [← List.cons_append, List.getLast?_concat], trivial⟩

theorem Listing.bracketed (listing : Listing pieces) {letters : List Char} (sound : (word letters).Sound) :
    Phrase (word letters :: mark .less :: (pieces ++ [mark .greater])) where
  sound := List.forall_mem_cons.2 ⟨sound, List.forall_mem_cons.2 ⟨sound_mark _, List.forall_mem_append.2
    ⟨listing.sound, List.forall_mem_singleton.2 (sound_mark _)⟩⟩⟩
  linked := List.isChain_cons_cons.2 ⟨.of_ends trivial,
    listing.closed (by decide) (by decide) ⟨by simp, by simp, by simp⟩⟩
  starts := ⟨_, rfl, trivial⟩
  ends := ⟨mark .greater, by rw [← List.cons_append, ← List.cons_append, List.getLast?_concat], trivial⟩

end Piece

end Weave.Declaration
