import Weave.Declaration.TypeName
import Mathlib.Data.List.Basic

/-! What the replacements that make a name compact do. A name is a row of pieces, words and signs, and a
layout says between which of them a blank stands. Each replacement takes the blanks away on one side of a
sign or on both, and so turns one layout into a tighter one. The replacement of a sign with both its blanks
reaches every such sign only if none lacks a blank on one side, which is a condition on the pieces that stand
next to each other. -/

namespace Weave.Declaration

/-! ### Replacements -/

section Replacing

variable {old new : List Char}

theorem replaceAll_nil : replaceAll old new [] = [] := by rw [replaceAll]

theorem replaceAll_miss {c : Char} {rest : List Char} (miss : ¬ old <+: c :: rest) :
    replaceAll old new (c :: rest) = c :: replaceAll old new rest := by
  rw [replaceAll, if_neg (mt List.isPrefixOf_iff_prefix.1 miss)]

theorem replaceAll_hit (first : Char) (more rest : List Char) :
    replaceAll (first :: more) new (first :: more ++ rest) =
      new ++ replaceAll (first :: more) new rest := by
  have found : (first :: more).isPrefixOf (first :: more ++ rest) = true :=
    List.isPrefixOf_iff_prefix.2 (List.prefix_append ..)
  rw [List.cons_append] at found ⊢
  rw [replaceAll, if_pos found]
  simp only [List.length_cons, Nat.add_sub_cancel, List.drop_left]

theorem replaceAll_append (first : Char) (more : List Char) {text : List Char} (free : first ∉ text)
    (rest : List Char) :
    replaceAll (first :: more) new (text ++ rest) = text ++ replaceAll (first :: more) new rest := by
  induction text with
  | nil => rfl
  | cons c text ih =>
    rw [List.mem_cons, not_or] at free
    have miss : ¬ first :: more <+: c :: (text ++ rest) := by
      intro starts
      exact free.1 (List.cons_prefix_cons.1 starts).1
    rw [List.cons_append, replaceAll_miss miss, ih free.2, List.cons_append]

end Replacing

/-! ### Pieces -/

inductive Sign where
  | colons | less | greater | comma | ampersand | opening | closing
deriving DecidableEq

namespace Sign

def first : Sign → Char
  | colons => ':'
  | less => '<'
  | greater => '>'
  | comma => ','
  | ampersand => '&'
  | opening => '('
  | closing => ')'

def more : Sign → List Char
  | colons => [':']
  | _ => []

def text (sign : Sign) : List Char := sign.first :: sign.more

theorem first_injective : Function.Injective first := by
  intro sign other
  cases sign <;> cases other <;> decide

theorem mem_text {sign : Sign} {c : Char} : c ∈ sign.text ↔ c = sign.first := by
  cases sign <;> simp [text, more, first]

end Sign

def isPlain (c : Char) : Bool := c ≠ ' ' && [':', '<', '>', ',', '&', '(', ')'].all (c ≠ ·)

theorem isPlain_first (sign : Sign) : isPlain sign.first = false := by cases sign <;> decide

theorem first_ne_blank (sign : Sign) : sign.first ≠ ' ' := by cases sign <;> decide

inductive Piece where
  | word (letters : List Char)
  | mark (sign : Sign)
deriving DecidableEq

namespace Piece

def text : Piece → List Char
  | word letters => letters
  | mark sign => sign.text

@[simp]
theorem text_mark (sign : Sign) : (mark sign).text = sign.text := rfl

/-- Words are not empty and have no blanks and signs in them. -/
def Sound : Piece → Prop
  | word letters => letters ≠ [] ∧ ∀ c ∈ letters, isPlain c = true
  | mark _ => True

theorem sound_mark (sign : Sign) : (mark sign).Sound := trivial

variable {piece : Piece}

theorem Sound.unblanked (sound : piece.Sound) : ' ' ∉ piece.text := by
  intro blank
  cases piece with
  | word letters => exact absurd (sound.2 ' ' blank) (by decide)
  | mark sign => exact first_ne_blank sign (Sign.mem_text.1 blank).symm

/-- A sign begins in no other piece. -/
theorem Sound.unsigned (sound : piece.Sound) {sign : Sign} (other : piece ≠ mark sign) :
    sign.first ∉ piece.text := by
  intro begun
  cases piece with
  | word letters =>
    have plain := sound.2 _ begun
    rw [isPlain_first] at plain
    contradiction
  | mark found => exact other (congrArg mark (Sign.first_injective (Sign.mem_text.1 begun).symm))

theorem Sound.nonempty (sound : piece.Sound) : piece.text ≠ [] := by
  cases piece with
  | word letters => exact sound.1
  | mark sign => exact List.cons_ne_nil sign.first sign.more

theorem Sound.head_mem (sound : piece.Sound) {c : Char} {more rest : List Char}
    (begins : c :: more <+: piece.text ++ rest) : c ∈ piece.text := by
  obtain ⟨first, others, shape⟩ := List.exists_cons_of_ne_nil sound.nonempty
  rw [shape, List.cons_append, List.cons_prefix_cons] at begins
  rw [shape, begins.1]
  exact List.mem_cons_self ..

def sign? : Piece → Option Sign
  | word _ => none
  | mark sign => some sign

def Starts : Piece → Prop
  | word _ | mark .ampersand | mark .opening => True
  | _ => False

def Ends : Piece → Prop
  | word _ | mark .greater | mark .closing => True
  | _ => False

/-- Whether two pieces may stand next to each other: double colons and opening angle brackets stand
behind what can end a type; a double colon stands in front of what can start one, and an opening angle
bracket not in front of a closing round one. -/
structure Links (piece next : Piece) : Prop where
  behind : next = mark .colons ∨ next = mark .less → piece.Ends
  colons : piece = mark .colons → next.Starts
  less : piece = mark .less → next ≠ mark .closing

end Piece

/-! ### Layouts -/

/-- The signs in front of which and behind which no blank stands. -/
structure Layout where
  before : List Sign
  after : List Sign

namespace Layout

variable (layout : Layout)

def blank (piece next : Piece) : Bool :=
  piece.sign?.all (!layout.after.contains ·) && next.sign?.all (!layout.before.contains ·)

def gap (piece next : Piece) : List Char := if layout.blank piece next then [' '] else []

def spaced : List Piece → List Char
  | [] => []
  | [piece] => piece.text
  | piece :: next :: rest => piece.text ++ layout.gap piece next ++ spaced (next :: rest)

def behind (piece : Piece) : List Piece → List Char
  | [] => []
  | next :: rest => layout.gap piece next ++ layout.spaced (next :: rest)

def tightBefore (sign : Sign) : Layout := { layout with before := layout.before.insert sign }

def tightAfter (sign : Sign) : Layout := { layout with after := layout.after.insert sign }

variable {layout}

theorem spaced_cons (piece : Piece) (rest : List Piece) :
    layout.spaced (piece :: rest) = piece.text ++ layout.behind piece rest := by
  cases rest with
  | nil => rw [spaced, behind, List.append_nil]
  | cons next rest => rw [spaced, behind, List.append_assoc]

theorem spaced_append {sign : Sign} (tight : sign ∈ layout.before) (pieces rest : List Piece) :
    layout.spaced (pieces ++ .mark sign :: rest) =
      layout.spaced pieces ++ layout.spaced (.mark sign :: rest) := by
  induction pieces with
  | nil => rfl
  | cons piece pieces ih =>
    have none : layout.gap piece (.mark sign) = [] := by simp [gap, blank, Piece.sign?, tight]
    rw [List.cons_append, spaced_cons, spaced_cons, List.append_assoc]
    congr 1
    cases pieces with
    | nil => rw [List.nil_append, behind, behind, none]
    | cons next pieces =>
      rw [List.cons_append] at ih ⊢
      rw [behind, behind, ih, List.append_assoc]

theorem behind_tight {sign : Sign} (tight : sign ∈ layout.after) (rest : List Piece) :
    layout.behind (.mark sign) rest = layout.spaced rest := by
  cases rest with
  | nil => rfl
  | cons next rest =>
    have none : layout.gap (.mark sign) next = [] := by simp [gap, blank, Piece.sign?, tight]
    rw [behind, none, List.nil_append]

section Tightening

variable {sign : Sign} {piece next : Piece}

theorem gap_tightBefore : (layout.tightBefore sign).gap piece (.mark sign) = [] := by
  simp [gap, blank, tightBefore, Piece.sign?]

theorem gap_tightBefore_other (other : next ≠ .mark sign) :
    (layout.tightBefore sign).gap piece next = layout.gap piece next := by
  cases next with
  | word letters => rfl
  | mark found =>
    have distinct : found ≠ sign := fun same => other (congrArg Piece.mark same)
    simp [gap, blank, tightBefore, Piece.sign?, distinct]

theorem gap_tightAfter : (layout.tightAfter sign).gap (.mark sign) next = [] := by
  simp [gap, blank, tightAfter, Piece.sign?]

theorem gap_tightAfter_other (other : piece ≠ .mark sign) :
    (layout.tightAfter sign).gap piece next = layout.gap piece next := by
  cases piece with
  | word letters => rfl
  | mark found =>
    have distinct : found ≠ sign := fun same => other (congrArg Piece.mark same)
    simp [gap, blank, tightAfter, Piece.sign?, distinct]

end Tightening

theorem gap_eq (layout : Layout) (piece next : Piece) :
    layout.gap piece next = [] ∨ layout.gap piece next = [' '] := by
  rw [gap]
  split
  · exact .inr rfl
  · exact .inl rfl

section Beginnings

variable {next : Piece} {rest : List Piece} {more : List Char}

theorem spaced_unblanked (sound : next.Sound) : ¬ ' ' :: more <+: layout.spaced (next :: rest) := by
  rw [spaced_cons]
  exact fun begins => sound.unblanked (sound.head_mem begins)

theorem spaced_unsigned (sound : next.Sound) {sign : Sign} (other : next ≠ .mark sign) :
    ¬ sign.first :: more <+: layout.spaced (next :: rest) := by
  rw [spaced_cons]
  exact fun begins => sound.unsigned other (sound.head_mem begins)

end Beginnings

variable (layout)

theorem replaceAll_gap (piece : Piece) {next : Piece} {rest : List Piece} {more new : List Char}
    (sound : next.Sound) {sign : Sign} (other : next ≠ .mark sign) :
    replaceAll (' ' :: sign.first :: more) new (layout.gap piece next ++ layout.spaced (next :: rest)) =
      layout.gap piece next ++
        replaceAll (' ' :: sign.first :: more) new (layout.spaced (next :: rest)) := by
  rcases layout.gap_eq piece next with none | one
  · rw [none, List.nil_append, List.nil_append]
  · rw [one]
    apply replaceAll_miss
    intro begins
    exact spaced_unsigned sound other (List.cons_prefix_cons.1 begins).2

/-- A sign loses the blanks in front of it. -/
theorem replaceAll_before (sign : Sign) {pieces : List Piece}
    (sound : ∀ piece ∈ pieces, piece.Sound) :
    replaceAll (' ' :: sign.text) sign.text (layout.spaced pieces) =
      (layout.tightBefore sign).spaced pieces := by
  induction pieces with
  | nil => exact replaceAll_nil
  | cons piece rest ih =>
    obtain ⟨here, later⟩ := List.forall_mem_cons.1 sound
    rw [spaced_cons, spaced_cons, replaceAll_append _ _ here.unblanked]
    congr 1
    cases rest with
    | nil => exact replaceAll_nil
    | cons next rest =>
      have nextSound := later next (List.mem_cons_self ..)
      rw [behind, behind, ← ih later]
      by_cases found : next = .mark sign
      · subst found
        rw [gap_tightBefore, List.nil_append]
        rcases layout.gap_eq piece (.mark sign) with none | one
        · rw [none, List.nil_append]
        · rw [one, spaced_cons]
          exact (replaceAll_hit _ _ _).trans (replaceAll_append _ _ nextSound.unblanked _).symm
      · rw [gap_tightBefore_other found]
        exact replaceAll_gap layout piece nextSound found

theorem replaceAll_joined {sign : Sign} {rest new : List Char} (joined : ¬ [' '] <+: rest)
    (single : sign = .colons → ¬ [':'] <+: rest) :
    replaceAll (sign.text ++ [' ']) new (sign.text ++ rest) =
      sign.text ++ replaceAll (sign.text ++ [' ']) new rest := by
  have whole : ¬ sign.text ++ [' '] <+: sign.text ++ rest := by
    rw [List.prefix_append_right_inj]
    exact joined
  cases sign with
  | colons =>
    have inner : ¬ [':', ':', ' '] <+: ':' :: rest := by
      intro begins
      have second := (List.cons_prefix_cons.1 begins).2
      exact single rfl ((List.prefix_append [':'] [' ']).trans second)
    exact (replaceAll_miss whole).trans (congrArg (':' :: ·) (replaceAll_miss inner))
  | less | greater | comma | ampersand | opening | closing => exact replaceAll_miss whole

/-- A sign loses the blanks behind it. -/
theorem replaceAll_after (sign : Sign) {pieces : List Piece}
    (sound : ∀ piece ∈ pieces, piece.Sound) (linked : pieces.IsChain Piece.Links) :
    replaceAll (sign.text ++ [' ']) sign.text (layout.spaced pieces) =
      (layout.tightAfter sign).spaced pieces := by
  induction pieces with
  | nil => exact replaceAll_nil
  | cons piece rest ih =>
    obtain ⟨here, later⟩ := List.forall_mem_cons.1 sound
    specialize ih later linked.of_cons
    rw [spaced_cons, spaced_cons]
    by_cases found : piece = .mark sign
    · subst found
      cases rest with
      | nil =>
        refine (replaceAll_joined ?_ ?_).trans ?_
        · simp [behind]
        · simp [behind]
        · rw [behind, replaceAll_nil]; rfl
      | cons next rest =>
        have nextSound := later next (List.mem_cons_self ..)
        rw [behind, behind, gap_tightAfter, List.nil_append, ← ih]
        rcases layout.gap_eq (.mark sign) next with none | one
        · rw [none, List.nil_append]
          refine replaceAll_joined (spaced_unblanked nextSound) ?_
          intro colons
          subst colons
          have other : next ≠ .mark .colons := by
            intro same
            have starts := (List.isChain_cons_cons.1 linked).1.colons rfl
            rw [same] at starts
            exact starts
          exact spaced_unsigned nextSound other
        · rw [one, ← List.append_assoc]
          exact replaceAll_hit _ _ _
    · rw [show sign.text ++ [' '] = sign.first :: (sign.more ++ [' ']) from rfl,
        replaceAll_append _ _ (here.unsigned found)]
      congr 1
      cases rest with
      | nil => exact replaceAll_nil
      | cons next rest =>
        rw [behind, behind, gap_tightAfter_other found, ← ih]
        have blank : sign.first ∉ layout.gap piece next := by
          rcases layout.gap_eq piece next with none | one
          · simp [none]
          · simpa [one] using first_ne_blank sign
        exact replaceAll_append _ _ blank _

/-- A sign that has blanks on both sides wherever it stands loses both. -/
theorem replaceAll_around (sign : Sign) (apart : ¬ Piece.Links (.mark sign) (.mark sign))
    (blanks : ∀ piece next, Piece.Links piece next → piece = .mark sign ∨ next = .mark sign →
      layout.gap piece next = [' ']) :
    ∀ pieces : List Piece, (∀ piece ∈ pieces, piece.Sound) → pieces.IsChain Piece.Links →
      pieces.head? ≠ some (.mark sign) → pieces.getLast? ≠ some (.mark sign) →
      replaceAll (' ' :: (sign.text ++ [' '])) sign.text (layout.spaced pieces) =
        ((layout.tightBefore sign).tightAfter sign).spaced pieces
  | [], _, _, _, _ => replaceAll_nil
  | [piece], sound, _, _, _ => by
    have unblanked := (sound piece (List.mem_cons_self ..)).unblanked
    rw [spaced_cons, spaced_cons, replaceAll_append _ _ unblanked]
    exact congrArg (piece.text ++ ·) replaceAll_nil
  | piece :: next :: rest, sound, linked, head, last => by
    obtain ⟨here, later⟩ := List.forall_mem_cons.1 sound
    obtain ⟨nextSound, beyond⟩ := List.forall_mem_cons.1 later
    obtain ⟨link, more⟩ := List.isChain_cons_cons.1 linked
    rw [spaced_cons, spaced_cons, replaceAll_append _ _ here.unblanked]
    congr 1
    have notHere : piece ≠ .mark sign := fun same => head (congrArg some same)
    rw [behind, behind, gap_tightAfter_other notHere]
    by_cases found : next = .mark sign
    · subst found
      -- The sign is not the last piece, and what follows it is not that sign again.
      cases rest with
      | nil => exact absurd rfl last
      | cons third rest =>
        obtain ⟨follows, further⟩ := List.isChain_cons_cons.1 more
        have other : third ≠ .mark sign := fun same => apart (same ▸ follows)
        rw [blanks _ _ link (.inr rfl), gap_tightBefore, spaced_cons, spaced_cons, behind, behind,
          blanks _ _ follows (.inl rfl), gap_tightAfter]
        have onward := replaceAll_around sign apart blanks (third :: rest) beyond further
          (fun same => other (Option.some.inj same)) (by simpa using last)
        simp only [List.nil_append]
        rw [← onward]
        simpa using replaceAll_hit ' ' (sign.text ++ [' ']) (layout.spaced (third :: rest))
    · have onward := replaceAll_around sign apart blanks (next :: rest) later more
        (fun same => found (Option.some.inj same)) (by simpa using last)
      rw [gap_tightBefore_other found, ← onward]
      exact replaceAll_gap layout piece nextSound found

def loose : Layout := ⟨[.closing], [.opening]⟩

theorem gap_loose {piece next : Piece} (outside : piece ≠ .mark .opening)
    (inside : next ≠ .mark .closing) : loose.gap piece next = [' '] := by
  have behind : piece.sign?.all (!loose.after.contains ·) = true := by
    cases piece with
    | word letters => rfl
    | mark sign =>
      have here : sign ≠ .opening := fun same => outside (congrArg Piece.mark same)
      simp [loose, Piece.sign?, here]
  have before : next.sign?.all (!loose.before.contains ·) = true := by
    cases next with
    | word letters => rfl
    | mark sign =>
      have there : sign ≠ .closing := fun same => inside (congrArg Piece.mark same)
      simp [loose, Piece.sign?, there]
  rw [gap, blank, behind, before]
  rfl

def compact : Layout :=
  ⟨[.comma, .greater, .less, .colons, .closing], [.ampersand, .less, .colons, .opening]⟩

end Layout

namespace Piece

/-- A row of pieces that a type could be made of. -/
structure Phrase (pieces : List Piece) : Prop where
  sound : ∀ piece ∈ pieces, piece.Sound
  linked : pieces.IsChain Links
  starts : ∃ first, pieces.head? = some first ∧ first.Starts
  ends : ∃ last, pieces.getLast? = some last ∧ last.Ends

variable {pieces : List Piece}

theorem Phrase.head_ne (phrase : Phrase pieces) {sign : Sign} (other : ¬ (mark sign).Starts) :
    pieces.head? ≠ some (mark sign) := by
  obtain ⟨first, found, starts⟩ := phrase.starts
  intro same
  rw [found, Option.some.injEq] at same
  exact other (same ▸ starts)

theorem Phrase.last_ne (phrase : Phrase pieces) {sign : Sign} (other : ¬ (mark sign).Ends) :
    pieces.getLast? ≠ some (mark sign) := by
  obtain ⟨last, found, ends⟩ := phrase.ends
  intro same
  rw [found, Option.some.injEq] at same
  exact other (same ▸ ends)

end Piece

namespace Layout

variable {piece next : Piece}

theorem gap_colons (link : Piece.Links piece next) (one : piece = .mark .colons ∨ next = .mark .colons) :
    loose.gap piece next = [' '] := by
  rcases one with rfl | rfl
  · apply gap_loose (by decide)
    rintro rfl
    exact link.colons rfl
  · refine gap_loose ?_ (by decide)
    rintro rfl
    exact link.behind (.inl rfl)

def joined : Layout := (loose.tightBefore .colons).tightAfter .colons

def bracketed : Layout := (joined.tightBefore .less).tightAfter .less

def closed : Layout := bracketed.tightBefore .greater

def listed : Layout := closed.tightBefore .comma

theorem gap_joined (outside : piece ≠ .mark .colons) (inside : next ≠ .mark .colons) :
    joined.gap piece next = loose.gap piece next :=
  (gap_tightAfter_other outside).trans (gap_tightBefore_other inside)

theorem gap_less (link : Piece.Links piece next) (one : piece = .mark .less ∨ next = .mark .less) :
    joined.gap piece next = [' '] := by
  rcases one with rfl | rfl
  · have notColons : next ≠ .mark .colons := fun same => link.behind (.inl same)
    rw [gap_joined (by decide) notColons]
    exact gap_loose (by decide) (link.less rfl)
  · have ends := link.behind (.inr rfl)
    have notColons : piece ≠ .mark .colons := by
      rintro rfl
      exact ends
    have notOpening : piece ≠ .mark .opening := by
      rintro rfl
      exact ends
    rw [gap_joined notColons (by decide)]
    exact gap_loose notOpening (by decide)

end Layout

open Layout in
/-- The replacements together turn the spelling of a type's pieces into the compact layout. -/
theorem compact_spaced {pieces : List Piece} (phrase : Piece.Phrase pieces) :
    compact (loose.spaced pieces) = Layout.compact.spaced pieces := by
  have sound := phrase.sound
  have linked := phrase.linked
  have colons : replaceAll " :: ".toList "::".toList (loose.spaced pieces) = joined.spaced pieces :=
    replaceAll_around loose .colons (fun link => link.colons rfl)
      (fun _ _ link one => gap_colons link one) pieces sound linked (phrase.head_ne id)
      (phrase.last_ne id)
  have colonsAfter : replaceAll ":: ".toList "::".toList (joined.spaced pieces) =
      joined.spaced pieces :=
    replaceAll_after joined .colons sound linked
  have less : replaceAll " < ".toList "<".toList (joined.spaced pieces) = bracketed.spaced pieces :=
    replaceAll_around joined .less (fun link => link.behind (.inr rfl))
      (fun _ _ link one => gap_less link one) pieces sound linked (phrase.head_ne id)
      (phrase.last_ne id)
  have lessAfter : replaceAll "< ".toList "<".toList (bracketed.spaced pieces) =
      bracketed.spaced pieces :=
    replaceAll_after bracketed .less sound linked
  have lessBefore : replaceAll " <".toList "<".toList (bracketed.spaced pieces) =
      bracketed.spaced pieces :=
    replaceAll_before bracketed .less sound
  have greater : replaceAll " >".toList ">".toList (bracketed.spaced pieces) =
      closed.spaced pieces :=
    replaceAll_before bracketed .greater sound
  have comma : replaceAll " ,".toList ",".toList (closed.spaced pieces) = listed.spaced pieces :=
    replaceAll_before closed .comma sound
  have ampersand : replaceAll "& ".toList "&".toList (listed.spaced pieces) =
      Layout.compact.spaced pieces :=
    replaceAll_after listed .ampersand sound linked
  simp only [Declaration.compact, compactions, List.foldl_cons, List.foldl_nil]
  rw [colons, colonsAfter, less, lessAfter, lessBefore, greater, comma, ampersand]

/-! ### Pieces from a text -/

theorem takeWhile_plain {letters rest : List Char} (plain : ∀ c ∈ letters, isPlain c = true)
    (stop : ∀ c ∈ rest.head?, isPlain c = false) :
    (letters ++ rest).takeWhile isPlain = letters := by
  rw [List.takeWhile_append_of_pos plain]
  cases rest with
  | nil => rw [List.takeWhile_nil, List.append_nil]
  | cons c rest =>
    rw [List.takeWhile_cons_of_neg (by simpa using stop c rfl), List.append_nil]

namespace Layout

variable {layout : Layout} {piece next : Piece} {rest others : List Piece}

theorem behind_word (letters : List Char) (sound : ∀ piece ∈ rest, piece.Sound) :
    ∀ c ∈ (layout.behind (.word letters) rest).head?, isPlain c = false := by
  intro c first
  cases rest with
  | nil => cases first
  | cons next rest =>
    rw [behind] at first
    rcases layout.gap_eq (.word letters) next with none | one
    · cases next with
      | word other => simp [gap, blank, Piece.sign?] at none
      | mark sign =>
        rw [none, List.nil_append, spaced_cons] at first
        cases first
        exact isPlain_first sign
    · rw [one] at first
      cases first
      decide

/-- A text shows the first piece it is made of. -/
theorem first_piece (sound : ∀ found ∈ piece :: rest, found.Sound)
    (otherSound : ∀ found ∈ next :: others, found.Sound)
    (same : layout.spaced (piece :: rest) = layout.spaced (next :: others)) :
    piece = next ∧ layout.behind piece rest = layout.behind next others := by
  obtain ⟨here, later⟩ := List.forall_mem_cons.1 sound
  obtain ⟨there, beyond⟩ := List.forall_mem_cons.1 otherSound
  rw [spaced_cons, spaced_cons] at same
  have equal : piece = next := by
    cases piece with
    | word letters =>
      cases next with
      | word lettersThere =>
        have words := congrArg (List.takeWhile isPlain) same
        exact congrArg Piece.word <| ((takeWhile_plain here.2 (behind_word letters later)).symm.trans
          words).trans (takeWhile_plain there.2 (behind_word lettersThere beyond))
      | mark sign =>
        have begins : sign.first :: sign.more <+:
            (Piece.word letters).text ++ layout.behind (.word letters) rest := by
          rw [same]
          exact List.prefix_append ..
        exact absurd (here.head_mem begins) (here.unsigned Piece.noConfusion)
    | mark sign =>
      by_contra other
      have begins : sign.first :: sign.more <+: next.text ++ layout.behind next others := by
        rw [← same]
        exact List.prefix_append ..
      exact there.unsigned (Ne.symm other) (there.head_mem begins)
  subst equal
  exact ⟨rfl, List.append_cancel_left same⟩

theorem spaced_ne_nil (sound : next.Sound) : layout.spaced (next :: others) ≠ [] := by
  rw [spaced_cons]
  exact fun empty => sound.nonempty (List.append_eq_nil_iff.1 empty).1

/-- Whether a blank stands behind the first piece shows in the text. -/
theorem spaced_of_behind (sound : ∀ found ∈ rest, found.Sound)
    (otherSound : ∀ found ∈ others, found.Sound)
    (same : layout.behind piece rest = layout.behind piece others) :
    layout.spaced rest = layout.spaced others := by
  cases rest with
  | nil =>
    cases others with
    | nil => rfl
    | cons there others =>
      have empty := (List.append_eq_nil_iff.1 same.symm).2
      exact absurd empty (spaced_ne_nil (otherSound there (List.mem_cons_self ..)))
  | cons here rest =>
    have hereSound := sound here (List.mem_cons_self ..)
    cases others with
    | nil => exact absurd (List.append_eq_nil_iff.1 same).2 (spaced_ne_nil hereSound)
    | cons there others =>
      have thereSound := otherSound there (List.mem_cons_self ..)
      rw [behind, behind] at same
      rcases layout.gap_eq piece here with none | one <;>
        rcases layout.gap_eq piece there with noneThere | oneThere
      · rwa [none, noneThere] at same
      · rw [none, oneThere, List.nil_append] at same
        exact absurd (⟨_, same.symm⟩ : [' '] <+: _) (spaced_unblanked hereSound)
      · rw [one, noneThere, List.nil_append] at same
        exact absurd (⟨_, same⟩ : [' '] <+: _) (spaced_unblanked thereSound)
      · rw [one, oneThere] at same
        exact List.append_cancel_left same

/-- No two rows of pieces have the same text. -/
theorem spaced_injective (sound : ∀ piece ∈ rest, piece.Sound)
    (otherSound : ∀ piece ∈ others, piece.Sound)
    (same : layout.spaced rest = layout.spaced others) : rest = others := by
  induction rest generalizing others with
  | nil =>
    cases others with
    | nil => rfl
    | cons there others =>
      exact absurd same.symm (spaced_ne_nil (otherSound there (List.mem_cons_self ..)))
  | cons here rest ih =>
    cases others with
    | nil => exact absurd same (spaced_ne_nil (sound here (List.mem_cons_self ..)))
    | cons there others =>
      obtain ⟨rfl, tails⟩ := first_piece sound otherSound same
      have later := (List.forall_mem_cons.1 sound).2
      have beyond := (List.forall_mem_cons.1 otherSound).2
      exact congrArg (here :: ·) (ih later beyond (spaced_of_behind later beyond tails))

end Layout

end Weave.Declaration
