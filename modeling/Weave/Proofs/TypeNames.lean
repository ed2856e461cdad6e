import Weave.Declaration.ProxyDeclaration
import Weave.Proofs.TokenPieces
import Mathlib.Data.List.Forall2
import Mathlib.Data.List.Induction

/-! Names of simple types. A type is simple if it consists of paths with arguments in angle brackets,
references and tuples, to any depth. Its name is its compact rendering, and the name shows which tokens the
type is written with, so methods with other parameters or another result have other descriptions. -/

namespace Weave.Declaration

open Piece

/-! ### Types -/

def commaText (trailing : Bool) (texts : List (List Char)) : List Char :=
  [',', ' '].intercalate texts ++ if trailing && !texts.isEmpty then [','] else []

def lifetimesFirst {α : Type} (items : List (Bool × α)) : List α :=
  (items.filter (·.1) ++ items.filter (!·.1)).map (·.2)

/-- Whether a comma stands behind the last argument as it is spelled. If a lifetime was the last as they
are written, the last one that is spelled keeps its comma. -/
def keepsComma (trailing : Bool) (areLifetimes : List Bool) : Bool :=
  trailing || (areLifetimes.getLast?.any id && areLifetimes.any not)

namespace TypeExpr

mutual

/-- Whether a type consists of paths with arguments in angle brackets, references and tuples. -/
def isSimple : TypeExpr → Bool
  | path rooted segments => !rooted && !segments.isEmpty && simpleSegments segments
  | reference lifetime _ inner => lifetime.all isLifetimeText && inner.isSimple
  | tuple items _ => simpleTypes items
  | _ => false

def simpleTypes : List TypeExpr → Bool
  | [] => true
  | type :: rest => type.isSimple && simpleTypes rest

def simpleSegment : Segment → Bool
  | .plain name => isNameText name
  | .generic name colons arguments _ => isNameText name && !colons && simpleArguments arguments
  | .callable _ _ _ _ => false

def simpleSegments : List Segment → Bool
  | [] => true
  | segment :: rest => simpleSegment segment && simpleSegments rest

def simpleArguments : List Argument → Bool
  | [] => true
  | .lifetime name :: rest => isLifetimeText name && simpleArguments rest
  | .type type :: rest => type.isSimple && simpleArguments rest
  | _ :: _ => false

end

mutual

/-- The compact rendering of a simple type. -/
def rendering : TypeExpr → List Char
  | path _ segments => "::".toList.intercalate (segmentRenderings segments)
  | reference lifetime mutable inner =>
    '&' :: (lifetime.map (·.toList ++ [' '])).getD [] ++ (if mutable then "mut ".toList else []) ++
      inner.rendering
  | tuple items trailing => '(' :: commaText trailing (renderings items) ++ [')']
  | _ => []

def renderings : List TypeExpr → List (List Char)
  | [] => []
  | type :: rest => type.rendering :: renderings rest

def segmentRendering : Segment → List Char
  | .plain name => name.toList
  | .generic name _ arguments trailing =>
    let items := argumentRenderings arguments
    name.toList ++ '<' :: commaText (keepsComma trailing (items.map (·.1))) (lifetimesFirst items) ++ ['>']
  | .callable _ _ _ _ => []

def segmentRenderings : List Segment → List (List Char)
  | [] => []
  | segment :: rest => segmentRendering segment :: segmentRenderings rest

def argumentRenderings : List Argument → List (Bool × List Char)
  | [] => []
  | .lifetime name :: rest => (true, name.toList) :: argumentRenderings rest
  | .type type :: rest => (false, type.rendering) :: argumentRenderings rest
  | _ :: rest => argumentRenderings rest

end

end TypeExpr

/-! ### Lists of arguments -/

namespace TypeExpr

theorem withCommas_concat {α : Type} (trailing : Bool) (items : List α) (last : α) :
    withCommas trailing (items ++ [last]) = items.map (·, true) ++ [(last, trailing)] := by
  induction items with
  | nil => rfl
  | cons item items ih =>
    cases items with
    | nil => rfl
    | cons next items =>
      rw [List.cons_append, List.cons_append, withCommas, ← List.cons_append, ih]
      · rfl
      · simp

theorem commaList_concat (trailing : Bool) (items : List (List Token)) (last : List Token) :
    commaList trailing (items ++ [last]) =
      items.flatMap (· ++ [comma]) ++ (last ++ if trailing then [comma] else []) := by
  induction items with
  | nil => rfl
  | cons item items ih =>
    rw [commaList] at ih ⊢
    cases items with
    | nil => simp [separated]
    | cons next items =>
      rw [List.cons_append, List.cons_append, separated, ← List.cons_append, ih]
      · simp
      · simp

theorem commaList_trailing (items : List (List Token)) :
    commaList true items = items.flatMap (· ++ [comma]) := by
  cases items using List.reverseRecOn with
  | nil => rfl
  | append_singleton items last => simp [commaList_concat]

theorem filter_marked {α : Type} (wanted : Bool × α → Bool) (items : List (Bool × α))
    (last : Bool × α) (trailing : Bool) :
    (items.map (·, true) ++ [(last, trailing)]).filter (wanted ·.1) =
      (items.filter wanted).map (·, true) ++ if wanted last then [(last, trailing)] else [] := by
  simp [List.filter_map, Function.comp_def, List.filter_cons]

/-- Arguments are spelled with the lifetimes first. -/
theorem argumentTokens_eq (trailing : Bool) (items : List (Bool × List Token)) :
    argumentTokens trailing items =
      commaList (keepsComma trailing (items.map (·.1))) (lifetimesFirst items) := by
  cases items using List.reverseRecOn with
  | nil => rfl
  | append_singleton items last =>
    obtain ⟨isLifetime, last⟩ := last
    have others : (items.map (·.1)).any not = !(items.filter (!·.1)).isEmpty := by
      rw [Bool.eq_iff_iff]
      simp [List.filter_eq_nil_iff]
    rw [argumentTokens, withCommas_concat, lifetimesFirst, keepsComma, filter_marked (·.1),
      filter_marked (!·.1)]
    simp only [List.filter_append, List.map_append, List.map_cons, List.map_nil, List.any_append,
      List.getLast?_concat, Option.any_some, others]
    generalize items.filter (·.1) = lifetimes
    generalize items.filter (!·.1) = types
    have commas (chosen : List (Bool × List Token)) :
        (chosen.map (·, true)).flatMap (fun item => item.1.2 ++ if item.2 then [comma] else []) =
          (chosen.map (·.2)).flatMap (· ++ [comma]) := by
      simp [List.flatMap_map]
    cases isLifetime with
    | false =>
      have closed : (lifetimes.getLast?.map (·, true)).all (·.2) = true := by
        cases lifetimes.getLast? <;> rfl
      have spelled := commaList_concat trailing ((lifetimes ++ types).map (·.2)) last
      simpa [commas, closed] using spelled.symm
    | true =>
      cases types with
      | nil => simp [commas, commaList_concat]
      | cons next more =>
        cases trailing <;> simp [commas, commaList_trailing]

end TypeExpr

/-! ### Reading the pieces -/

/-- The tokens are spelled with pieces of a type that have the text in the compact layout. -/
def Reads (tokens : List Token) (text : List Char) : Prop :=
  ∃ pieces, Spells tokens pieces ∧ Piece.Phrase pieces ∧ Layout.compact.spaced pieces = text

def Lists (tokens : List Token) (text : List Char) : Prop :=
  ∃ pieces, Spells tokens pieces ∧ Piece.Listing pieces ∧ Layout.compact.spaced pieces = text

section Reading

variable {tokens others : List Token} {text rest : List Char}

theorem reads_word {token : Token} {letters : List Char} (alone : Spells [token] [.word letters]) :
    Reads [token] letters :=
  ⟨_, alone, ⟨alone.sound, List.isChain_singleton _, ⟨_, rfl, trivial⟩, ⟨_, rfl, trivial⟩⟩, rfl⟩

theorem behind_blank {piece : Piece} {pieces : List Piece}
    (loose : piece.sign?.all (!Layout.compact.after.contains ·) = true)
    (starts : ∀ first ∈ pieces.head?, first.Starts) (some : pieces ≠ []) :
    Layout.compact.behind piece pieces = ' ' :: Layout.compact.spaced pieces := by
  obtain ⟨first, more, rfl⟩ := List.exists_cons_of_ne_nil some
  have unjoined : first.sign?.all (!Layout.compact.before.contains ·) = true := by
    have starts := starts first rfl
    cases first with
    | word letters => rfl
    | mark sign =>
      cases sign with
      | ampersand | opening => decide
      | colons | less | greater | comma | closing => exact starts.elim
  rw [Layout.behind, Layout.gap, Layout.blank, loose, unjoined]
  rfl

theorem Reads.behind {token : Token} {letters : List Char} (alone : Spells [token] [.word letters])
    (reads : Reads tokens text) : Reads (token :: tokens) (letters ++ ' ' :: text) := by
  obtain ⟨pieces, spells, phrase, rfl⟩ := reads
  have sound := List.forall_mem_singleton.1 alone.sound
  refine ⟨_, alone.append spells, phrase.cons sound trivial, ?_⟩
  rw [List.singleton_append, Layout.spaced_cons,
    behind_blank rfl phrase.listing.starts phrase.ne_nil]
  rfl

theorem Reads.referred (reads : Reads tokens text) : Reads (.single '&' :: tokens) ('&' :: text) := by
  obtain ⟨pieces, spells, phrase, rfl⟩ := reads
  refine ⟨_, spells.sign .ampersand (by simp), phrase.cons (sound_mark _) trivial, ?_⟩
  rw [Layout.spaced_cons, Layout.behind_tight (by decide)]
  rfl

theorem Reads.join (reads : Reads tokens text) (behind : Reads others rest) :
    Reads (tokens ++ Token.doubleColon ++ others) (text ++ "::".toList ++ rest) := by
  obtain ⟨pieces, spells, phrase, rfl⟩ := reads
  obtain ⟨more, spellsMore, phraseMore, rfl⟩ := behind
  refine ⟨_, ?_, phrase.join phraseMore, ?_⟩
  · rw [List.append_assoc]
    exact spells.append spellsMore.colons
  · rw [Layout.spaced_append (by decide), Layout.spaced_cons, Layout.behind_tight (by decide),
      List.append_assoc]
    rfl

theorem Reads.ne_nil (reads : Reads tokens text) : text ≠ [] := by
  obtain ⟨pieces, spells, phrase, rfl⟩ := reads
  obtain ⟨first, more, rfl⟩ := List.exists_cons_of_ne_nil phrase.ne_nil
  exact Layout.spaced_ne_nil (phrase.sound first (List.mem_cons_self ..))

theorem Reads.alone (reads : Reads tokens text) : Lists tokens text := by
  obtain ⟨pieces, spells, phrase, same⟩ := reads
  exact ⟨pieces, spells, phrase.listing, same⟩

theorem lists_nothing : Lists [] [] :=
  ⟨[], .nil, Listing.nil, rfl⟩

theorem Reads.trailing (reads : Reads tokens text) :
    Lists (tokens ++ [TypeExpr.comma]) (text ++ [',']) := by
  obtain ⟨pieces, spells, phrase, rfl⟩ := reads
  refine ⟨_, spells.append (Spells.nil.sign .comma (by simp)), .cons phrase Listing.nil, ?_⟩
  rw [Layout.spaced_append (by decide)]
  rfl

theorem Lists.cons (reads : Reads tokens text) (behind : Lists others rest) (some : rest ≠ []) :
    Lists (tokens ++ TypeExpr.comma :: others) (text ++ ',' :: ' ' :: rest) := by
  obtain ⟨pieces, spells, phrase, rfl⟩ := reads
  obtain ⟨more, spellsMore, listing, rfl⟩ := behind
  have inhabited : more ≠ [] := by
    rintro rfl
    exact some rfl
  refine ⟨_, spells.append (spellsMore.sign .comma (by simp)), .cons phrase listing, ?_⟩
  rw [Layout.spaced_append (by decide), Layout.spaced_cons,
    behind_blank (by decide) listing.starts inhabited]
  rfl

theorem commaText_cons (trailing : Bool) (text next : List Char) (texts : List (List Char)) :
    commaText trailing (text :: next :: texts) =
      text ++ ',' :: ' ' :: commaText trailing (next :: texts) := by
  simp [commaText, List.intercalate_cons_cons]

theorem commaText_ne_nil {trailing : Bool} {text : List Char} {texts : List (List Char)}
    (some : text ≠ []) : commaText trailing (text :: texts) ≠ [] := by
  cases texts <;> simp [commaText, List.intercalate_cons_cons, some]

theorem lists_separated {items : List (List Token)} {texts : List (List Char)}
    (each : List.Forall₂ Reads items texts) (trailing : Bool) :
    Lists (TypeExpr.commaList trailing items) (commaText trailing texts) := by
  induction each with
  | nil => cases trailing <;> exact lists_nothing
  | @cons item text items texts reads rest ih =>
    cases rest with
    | nil =>
      cases trailing with
      | false => simpa [TypeExpr.commaList, TypeExpr.separated, commaText] using reads.alone
      | true => simpa [TypeExpr.commaList, TypeExpr.separated, commaText] using reads.trailing
    | @cons _ next _ _ readsNext rest =>
      rw [commaText_cons]
      exact .cons reads ih (commaText_ne_nil readsNext.ne_nil)

theorem Lists.grouped (lists : Lists tokens text) :
    Reads [.group .round tokens] ('(' :: text ++ [')']) := by
  obtain ⟨pieces, spells, listing, rfl⟩ := lists
  refine ⟨_, spells.group .nil, listing.grouped, ?_⟩
  rw [Layout.spaced_cons, Layout.behind_tight (by decide), Layout.spaced_append (by decide)]
  rfl

theorem Lists.bracketed (lists : Lists tokens text) {name : String} (named : isNameText name = true) :
    Reads (.word name :: .single '<' :: (tokens ++ [.single '>']))
      (name.toList ++ '<' :: (text ++ ['>'])) := by
  obtain ⟨pieces, spells, listing, rfl⟩ := lists
  have closing := Spells.nil.sign .greater (by simp)
  have opening := (spells.append closing).sign .less (by simp)
  refine ⟨_, opening.word named, listing.bracketed (Spells.sound_word named), ?_⟩
  rw [← List.nil_append (mark Sign.less :: _), ← List.cons_append,
    Layout.spaced_append (by decide), Layout.spaced_cons (mark .less), Layout.behind_tight (by decide),
    Layout.spaced_append (by decide)]
  rfl

end Reading

namespace TypeExpr

theorem forall₂_filter {items : List (Bool × List Token)} {texts : List (Bool × List Char)}
    (each : List.Forall₂ (fun item text => item.1 = text.1 ∧ Reads item.2 text.2) items texts)
    (wanted : Bool → Bool) :
    List.Forall₂ Reads ((items.filter (wanted ·.1)).map (·.2))
      ((texts.filter (wanted ·.1)).map (·.2)) := by
  induction each with
  | nil => exact .nil
  | @cons item text _ _ one _ ih =>
    rw [List.filter_cons, List.filter_cons, one.1]
    split
    · exact .cons one.2 ih
    · exact ih

theorem lists_arguments {items : List (Bool × List Token)} {texts : List (Bool × List Char)}
    (each : List.Forall₂ (fun item text => item.1 = text.1 ∧ Reads item.2 text.2) items texts)
    (trailing : Bool) :
    Lists (argumentTokens trailing items)
      (commaText (keepsComma trailing (texts.map (·.1))) (lifetimesFirst texts)) := by
  have kinds : items.map (·.1) = texts.map (·.1) := by
    induction each with
    | nil => rfl
    | cons one _ ih => exact congrArg₂ List.cons one.1 ih
  rw [argumentTokens_eq, kinds]
  apply lists_separated
  rw [lifetimesFirst, lifetimesFirst, List.map_append, List.map_append]
  exact List.rel_append (forall₂_filter each id) (forall₂_filter each not)

mutual

theorem reads_type : (type : TypeExpr) → type.isSimple = true → Reads type.tokens type.rendering
  | .path rooted segments, simple => by
    rw [isSimple, Bool.and_eq_true, Bool.and_eq_true, Bool.not_eq_true', Bool.not_eq_true'] at simple
    obtain ⟨⟨rfl, some⟩, each⟩ := simple
    exact reads_path segments (by simpa using some) each
  | .reference lifetime mutable inner, simple => by
    rw [isSimple, Bool.and_eq_true] at simple
    have reads := reads_type inner simple.2
    have marked : Reads (mutability mutable ++ inner.tokens)
        ((if mutable then "mut ".toList else []) ++ inner.rendering) := by
      cases mutable with
      | false => exact reads
      | true => exact reads.behind (Spells.nil.word (by decide))
    rw [tokens, rendering, List.append_assoc]
    cases lifetime with
    | none => exact marked.referred
    | some name => simpa using (marked.behind (Spells.nil.lifetime simple.1)).referred
  | .tuple items trailing, simple => by
    exact (lists_separated (reads_types items simple) trailing).grouped

theorem reads_types : (types : List TypeExpr) → simpleTypes types = true →
    List.Forall₂ Reads (listTokens types) (renderings types)
  | [], _ => .nil
  | type :: rest, simple => by
    rw [simpleTypes, Bool.and_eq_true] at simple
    exact .cons (reads_type type simple.1) (reads_types rest simple.2)

theorem reads_segment : (segment : Segment) → simpleSegment segment = true →
    Reads (segmentTokens segment) (segmentRendering segment)
  | .plain _, simple => reads_word (Spells.nil.word simple)
  | .generic name colons arguments trailing, simple => by
    rw [simpleSegment, Bool.and_eq_true, Bool.and_eq_true, Bool.not_eq_true'] at simple
    obtain ⟨⟨named, rfl⟩, each⟩ := simple
    have lists := lists_arguments (reads_arguments arguments each) trailing
    simpa [segmentTokens, segmentRendering] using lists.bracketed named

theorem reads_path : (segments : List Segment) → segments ≠ [] → simpleSegments segments = true →
    Reads (pathTokens segments) ("::".toList.intercalate (segmentRenderings segments))
  | [segment], _, simple => by
    rw [simpleSegments, Bool.and_eq_true] at simple
    simpa [segmentRenderings, pathTokens] using reads_segment segment simple.1
  | segment :: next :: rest, _, simple => by
    rw [simpleSegments, Bool.and_eq_true] at simple
    have behind := reads_path (next :: rest) (List.cons_ne_nil _ _) simple.2
    rw [segmentRenderings, segmentRenderings, List.intercalate_cons_cons, ← segmentRenderings]
    exact (reads_segment segment simple.1).join behind

theorem reads_arguments : (arguments : List Argument) → simpleArguments arguments = true →
    List.Forall₂ (fun item text => item.1 = text.1 ∧ Reads item.2 text.2) (argumentList arguments)
      (argumentRenderings arguments)
  | [], _ => .nil
  | .lifetime name :: rest, simple => by
    rw [simpleArguments, Bool.and_eq_true] at simple
    exact .cons ⟨rfl, reads_word (Spells.nil.lifetime simple.1)⟩ (reads_arguments rest simple.2)
  | .type type :: rest, simple => by
    rw [simpleArguments, Bool.and_eq_true] at simple
    exact .cons ⟨rfl, reads_type type simple.1⟩ (reads_arguments rest simple.2)

end

variable {type other : TypeExpr}

theorem name_eq_rendering (simple : type.isSimple = true) :
    type.name = String.ofList type.rendering := by
  obtain ⟨pieces, spells, phrase, text⟩ := reads_type type simple
  rw [name, spells.spelling, compact_spaced phrase, text]

theorem tokens_of_rendering (simple : type.isSimple = true) (otherSimple : other.isSimple = true)
    (same : type.rendering = other.rendering) : type.tokens = other.tokens := by
  obtain ⟨pieces, spells, phrase, text⟩ := reads_type type simple
  obtain ⟨others, spellsOther, phraseOther, textOther⟩ := reads_type other otherSimple
  have row := Layout.spaced_injective phrase.sound phraseOther.sound
    (text.trans (same.trans textOther.symm))
  subst row
  have whole : pieces ++ [] = pieces ++ [] := rfl
  exact (spells.unique spellsOther (by simp) (by simp) whole).1

theorem name_eq_iff (simple : type.isSimple = true) (otherSimple : other.isSimple = true) :
    type.name = other.name ↔ type.tokens = other.tokens := by
  constructor
  · intro same
    rw [name_eq_rendering simple, name_eq_rendering otherSimple, String.ofList_inj] at same
    exact tokens_of_rendering simple otherSimple same
  · intro same
    rw [name, name, same]

end TypeExpr

def ProxiedMethod.IsSimple (method : ProxiedMethod) : Prop :=
  (∀ parameter ∈ method.parameters, parameter.2.isSimple = true) ∧ method.output.isSimple = true

namespace TypeExpr

theorem tokens_of_names {parameters others : List (String × TypeExpr)}
    (simple : ∀ parameter ∈ parameters, parameter.2.isSimple = true)
    (otherSimple : ∀ parameter ∈ others, parameter.2.isSimple = true)
    (same : parameters.map (·.2.name) = others.map (·.2.name)) :
    parameters.map (·.2.tokens) = others.map (·.2.tokens) := by
  induction parameters generalizing others with
  | nil => rw [List.map_eq_nil_iff.1 same.symm, List.map_nil]
  | cons parameter parameters ih =>
    cases others with
    | nil => cases same
    | cons other others =>
      obtain ⟨here, later⟩ := List.forall_mem_cons.1 simple
      obtain ⟨there, beyond⟩ := List.forall_mem_cons.1 otherSimple
      obtain ⟨name, names⟩ := List.cons.inj same
      exact congrArg₂ List.cons ((name_eq_iff here there).1 name) (ih later beyond names)

/-- The name of a simple type is its compact rendering. Simple types with other tokens have other names, so
methods with another parameter or another result are described with other types. -/
theorem simple_names_tell_types :
    (∀ type : TypeExpr, type.isSimple = true → type.name = String.ofList type.rendering) ∧
      (∀ type other : TypeExpr, type.isSimple = true → other.isSimple = true →
        type.tokens ≠ other.tokens → type.name ≠ other.name) ∧
      ∀ (method other : ProxiedMethod) (owner otherOwner : String), method.IsSimple → other.IsSimple →
        method.parameters.map (·.2.tokens) ≠ other.parameters.map (·.2.tokens) ∨
          method.output.tokens ≠ other.output.tokens →
        (method.methodConstant owner).parameterTypes ≠
            (other.methodConstant otherOwner).parameterTypes ∨
          (method.methodConstant owner).returnType ≠ (other.methodConstant otherOwner).returnType := by
  refine ⟨fun type simple => name_eq_rendering simple, ?_, ?_⟩
  · intro type other simple otherSimple apart same
    exact apart ((name_eq_iff simple otherSimple).1 same)
  · intro method other owner otherOwner simple otherSimple apart
    rcases apart with parameters | output
    · left
      intro same
      exact parameters (tokens_of_names simple.1 otherSimple.1 same)
    · right
      intro same
      exact output ((name_eq_iff simple.2 otherSimple.2).1 same)

namespace Ledger

def str : TypeExpr := .path false [.plain "str"]

def entry : TypeExpr := .tuple [.path false [.plain "u8"], .reference none false str] false

def entries : TypeExpr := .path false [.generic "Vec" false [.type entry] false]

def failure : TypeExpr := .path false [.plain "std", .plain "io", .plain "Error"]

def report : TypeExpr :=
  .reference (some "'a") true
    (.path false [.generic "Result" false [.type entries, .type failure] false])

def listing : ProxiedMethod := ⟨"list", [("entry", entry)], report, 0⟩

def totals : ProxiedMethod := ⟨"list", [("entry", entries)], report, 0⟩

theorem report_named :
    report.isSimple = true ∧ entries.isSimple = true ∧ report.tokens ≠ entries.tokens ∧
      report.name = "&'a mut Result<Vec<(u8, &str)>, std::io::Error>" ∧ report.name ≠ entries.name ∧
      listing.IsSimple ∧ totals.IsSimple ∧
      ((listing.methodConstant "Ledger").parameterTypes ≠
          (totals.methodConstant "Ledger").parameterTypes ∨
        (listing.methodConstant "Ledger").returnType ≠ (totals.methodConstant "Ledger").returnType) := by
  obtain ⟨named, apart, described⟩ := simple_names_tell_types
  have simple : report.isSimple = true := by decide
  have entriesSimple : entries.isSimple = true := by decide
  have tokens : report.tokens ≠ entries.tokens := by
    intro same
    cases (List.cons.inj same).1
  have listingSimple : listing.IsSimple := ⟨by decide, by decide⟩
  have totalsSimple : totals.IsSimple := ⟨by decide, by decide⟩
  have parameters : listing.parameters.map (·.2.tokens) ≠ totals.parameters.map (·.2.tokens) := by
    intro same
    cases (List.cons.inj (List.cons.inj same).1).1
  exact ⟨simple, entriesSimple, tokens, (named report simple).trans (by decide),
    apart report entries simple entriesSimple tokens, listingSimple, totalsSimple,
    described listing totals "Ledger" "Ledger" listingSimple totalsSimple (.inl parameters)⟩

end Ledger

end TypeExpr

end Weave.Declaration
