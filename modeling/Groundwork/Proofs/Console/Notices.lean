import Groundwork.Proofs.Console.Escape

/-!
# Notices that show

What a command tells its user shows, in a dry run and otherwise: headings without brackets
(`heading_shows`) and next steps with any text (`nextSteps_shows`). The note on the schema takes the
directory as markup; it shows if that has no bracket (`schemaKept_shows`), and else it may meet a
fault of markup, but of no other kind (`schemaKept_markupOnly`).
-/

namespace Groundwork

namespace Console

open Text

/-! ## Headings -/

/-- A heading shows, given that its text is no markup. -/
theorem heading_shows (dryRun : Bool) {text : Text} (noBracket : '[' ∉ text)
    (noBackslash : '\\' ∉ text) : ∃ shown, (Notice.heading dryRun text).render = .ok shown := by
  have ended : Tagless (text ++ "...\n".toList ++ []) :=
    tagless_nil.after (by simp [noBracket]) (by simp [noBackslash])
  have rendered : (Notice.heading dryRun text).render = Console.print
      ("\n".toList ++ (Notice.dryRunMark dryRun ++ (text ++ "...\n".toList ++ []))) := by
    simp only [Notice.render, List.append_assoc, List.append_nil]
  rw [rendered]
  exact ((ended.marked dryRun).after (by decide) (by decide)).print

/-! ## Styled text -/

/-- Text without opening brackets is ordinary text up to a character that is no backslash. -/
theorem piecesFrom_ordinary {u : Text} (noBracket : '[' ∉ u) {c : Char} (noBackslash : c ≠ '\\')
    (noOpening : c ≠ '[') (position : Nat) (before : Text) (pending : Nat) :
    ∃ position' before', ∀ s, piecesFrom position before pending 0 (u ++ c :: s) =
      piecesFrom position' before' 0 0 s := by
  induction u generalizing position before pending with
  | nil =>
    refine ⟨position + 1, c :: (backslashes pending ++ before), fun s => ?_⟩
    rw [List.nil_append, piecesFrom, if_neg (Nat.lt_irrefl 0), if_neg noBackslash,
      if_pos noOpening]
  | cons d u ih =>
    rw [List.mem_cons, not_or] at noBracket
    by_cases backslash : d = '\\'
    · obtain ⟨position', before', same⟩ := ih noBracket.2 (position + 1) before (pending + 1)
      refine ⟨position', before', fun s => ?_⟩
      rw [← same, List.cons_append, piecesFrom, if_neg (Nat.lt_irrefl 0), if_pos backslash]
    · obtain ⟨position', before', same⟩ :=
        ih noBracket.2 (position + 1) (d :: (backslashes pending ++ before)) 0
      refine ⟨position', before', fun s => ?_⟩
      rw [← same, List.cons_append, piecesFrom, if_neg (Nat.lt_irrefl 0), if_neg backslash,
        if_pos (Ne.symm noBracket.1)]

/-- The parts of markup show while these tags are open. -/
def Shows (openTags : List Tag) (pieces : List Piece) : Prop :=
  ∃ text, showPieces openTags pieces = .ok text

namespace Shows

variable {openTags : List Tag} {pieces : List Piece}

theorem untagged (shows : Shows openTags pieces) {plain : List Piece} (untagged : Untagged plain) :
    Shows openTags (plain ++ pieces) := by
  induction plain with
  | nil => exact shows
  | cons piece plain ih =>
    obtain ⟨text, rfl⟩ := untagged piece (by simp)
    obtain ⟨rest, shows⟩ := ih fun other member => untagged other (List.mem_cons_of_mem _ member)
    refine ⟨withEmojis text ++ rest, ?_⟩
    rw [List.cons_append, showPieces, shows]
    rfl

theorem opening {c : Char} {style : Text} {tag : Tag} (position : Nat) (noSlash : c ≠ '/')
    (opens : Tag.ofInside (c :: style) = .ok tag) (shows : Shows (tag :: openTags) pieces) :
    Shows openTags (.tag position (c :: style) :: pieces) := by
  obtain ⟨text, shows⟩ := shows
  refine ⟨text, ?_⟩
  unfold showPieces
  split
  · next inside same => exact absurd (List.cons.inj same).1 noSlash
  · rw [opens]
    exact shows

theorem closing {style : Text} {left : List Tag} {position : Nat}
    (closes : closeTag openTags style position = .ok left) (shows : Shows left pieces) :
    Shows openTags (.tag position ('/' :: style) :: pieces) := by
  obtain ⟨text, shows⟩ := shows
  refine ⟨text, ?_⟩
  have step : showPieces openTags (.tag position ('/' :: style) :: pieces) =
      (closeTag openTags style position).bind fun left => showPieces left pieces := rfl
  rw [step, closes]
  exact shows

end Shows

/-- A tag that no backslash precedes is a part of its own. -/
theorem piecesFrom_tag (position : Nat) (before : Text) {inside : Text} (s : Text)
    (found : tagInside? (inside ++ ']' :: s) = some inside) :
    piecesFrom position before 0 0 ('[' :: (inside ++ ']' :: s)) =
      plainPiece before.reverse ++ .tag position inside ::
        piecesFrom (position + 1 + (inside.length + 1)) [] 0 0 s := by
  have skip := piecesFrom_skip (position + 1) (inside ++ "]") s
  rw [List.append_assoc, List.length_append] at skip
  have empty : plainPiece (backslashes (0 / 2)) = [] := rfl
  rw [piecesFrom, if_neg (Nat.lt_irrefl 0), if_neg (by decide), if_neg (by decide), found]
  dsimp only
  rw [if_neg (by decide), empty, List.append_nil]
  exact congrArg (plainPiece before.reverse ++ .tag position inside :: ·) skip

/-- The last open tag is closed by its style. -/
theorem closeTag_of_styleName {tag : Tag} {style : Text} (position : Nat)
    (nonempty : (Text.trim (style.takeWhile (· ≠ '='))).isEmpty = false)
    (named : styleName (Text.trim (style.takeWhile (· ≠ '='))) = .ok tag.name)
    (closes : tag.close = .ok ()) : closeTag [tag] style position = .ok [] := by
  unfold closeTag
  dsimp only
  rw [nonempty, named]
  simp only [bind, Except.bind, List.find?_cons, decide_true, closes]
  simp [pure, Except.pure]

/-- Text in one style shows, with text without tags after it. -/
theorem styled_shows (c d : Char) (style u : Text) {rest : Text} {tag : Tag}
    (letter : c.isLower = true)
    (whole : (c :: style).all isNoBracket = true) (opens : Tag.ofInside (c :: style) = .ok tag)
    (closes : ∀ position, closeTag [tag] (c :: style) position = .ok [])
    (noBracket : '[' ∉ u) (noBackslash : d ≠ '\\') (noOpening : d ≠ '[')
    (tagless : Tagless rest) :
    ∃ text, shown ('[' :: (c :: style ++ ']' ::
      (u ++ d :: '[' :: ('/' :: c :: style ++ ']' :: rest)))) = .ok text := by
  have noSlash : c ≠ '/' := by
    rintro rfl
    exact absurd letter (by decide)
  have inner : style.all isNoBracket = true := by
    rw [List.all_cons, Bool.and_eq_true] at whole
    exact whole.2
  have opening (s : Text) : tagInside? (c :: style ++ ']' :: s) = some (c :: style) :=
    tagInside?_eq_some_iff.2 ⟨c, style, s, rfl, by simp [letter], inner, rfl⟩
  have closing (s : Text) :
      tagInside? ('/' :: c :: style ++ ']' :: s) = some ('/' :: c :: style) :=
    tagInside?_eq_some_iff.2 ⟨'/', c :: style, s, rfl, by decide, whole, rfl⟩
  obtain ⟨position, before, ordinary⟩ :=
    piecesFrom_ordinary noBracket noBackslash noOpening (0 + 1 + ((c :: style).length + 1)) [] 0
  have shows : Shows [] (pieces ('[' :: (c :: style ++ ']' ::
      (u ++ d :: '[' :: ('/' :: c :: style ++ ']' :: rest))))) := by
    unfold pieces
    rw [piecesFrom_tag 0 [] _ (opening _), ordinary, piecesFrom_tag position before _ (closing _)]
    have ended : Shows [] (piecesFrom
        (position + 1 + (('/' :: c :: style).length + 1)) [] 0 0 rest) :=
      showPieces_of_untagged (tagless _ _) []
    exact Shows.opening 0 noSlash opens
      ((Shows.closing (closes position) ended).untagged (untagged_plainPiece _))
  obtain ⟨text, shows⟩ := shows
  refine ⟨text.filter fun c => !isDropped c, ?_⟩
  unfold shown
  rw [shows]
  rfl

/-- The two next steps of a command show, given that the first one is no markup. -/
theorem nextSteps_shows {first : Text} (noBracket : '[' ∉ first) (noBackslash : '\\' ∉ first)
    (escaped : escape first = first) (second : Text) :
    ∃ text, (Notice.nextSteps [first, second]).render = .ok text := by
  have tagless : Tagless ("\n  1. ".toList ++ first ++ "\n  2. ".toList ++ escape second) :=
    (tagless_escape second).after (by simp [noBracket]) (by simp [noBackslash])
  have bold : Tag.ofInside "bold".toList = .ok ⟨"bold".toList, []⟩ := by decide +kernel
  obtain ⟨text, shows⟩ := styled_shows 'b' ':' "old".toList "Next steps".toList
    (by decide) (by decide) bold
    (fun position => closeTag_of_styleName position (by decide) (by decide +kernel) (by decide))
    (by decide) (by decide) (by decide) tagless
  have rendered : (Notice.nextSteps [first, second]).render = (do
      return panel "Done" (← shown ('[' :: ("bold".toList ++ ']' :: ("Next steps".toList ++
        ':' :: '[' :: ('/' :: "bold".toList ++ ']' ::
          ("\n  1. ".toList ++ first ++ "\n  2. ".toList ++ escape second))))))) := by
    have lines : Notice.stepLines [first, second] =
        ["  1. ".toList ++ first, "  2. ".toList ++ escape second] := by
      have one : Text.ofNat (0 + 1) = "1".toList := by decide
      have two : Text.ofNat (0 + 1 + 1) = "2".toList := by decide
      simp only [Notice.stepLines, List.mapIdx_cons, List.mapIdx_nil, one, two, escaped]
      rfl
    rw [Notice.render, lines]
    simp
  rw [rendered]
  refine ⟨panel "Done" text, ?_⟩
  exact congrArg (fun shown => shown >>= fun text => pure (panel "Done" text)) shows

/-! ## The note on the schema -/

/-- A word that is a colour in no other form is one by its name or not at all. -/
theorem isColour_of_plain {word : Text} (noNumber : argument? "color" word = none)
    (noMixture : argument? "rgb" word = none) : ∃ named, isColour word = .ok named := by
  unfold isColour
  split
  · exact ⟨true, rfl⟩
  · rw [noNumber, noMixture]
    exact ⟨false, rfl⟩

/-- A word of a style that does not say what the next word is for. -/
def IsPlainWord (word : Text) : Prop :=
  Text.lower word = word ∧ word ≠ "on".toList ∧ word ≠ "not".toList ∧ word ≠ "link".toList

instance (word : Text) : Decidable (IsPlainWord word) :=
  inferInstanceAs (Decidable (_ ∧ _))

theorem ofWords?_trait {style : Style} {word : Text} (words : List Text) {trait : Trait}
    (plain : IsPlainWord word) (isTrait : Trait.ofWord? word = some trait) :
    Style.ofWords? style .any (word :: words) =
      Style.ofWords? { style with traits := (trait, true) :: style.traits } .any words := by
  obtain ⟨small, noOn, noNot, noLink⟩ := plain
  rw [Style.ofWords?]
  rw [small, if_neg noOn, if_neg noNot, if_neg noLink, isTrait]

theorem ofWords?_colour {style : Style} {word : Text} {named : Bool} (plain : IsPlainWord word)
    (noTrait : Trait.ofWord? word = none) (colour : isColour word = .ok named) :
    Style.ofWords? style .any [word] =
      .ok (if named then some { style with colour := some word } else none) := by
  obtain ⟨small, noOn, noNot, noLink⟩ := plain
  rw [Style.ofWords?]
  rw [small, if_neg noOn, if_neg noNot, if_neg noLink, noTrait, colour]
  cases named <;> rfl

/-- The style of the note is named as it is written. The name does not depend on the colour being
    known, so the list of colours need not be gone through. -/
theorem styleName_note : styleName "bold yellow".toList = .ok "bold yellow".toList := by
  obtain ⟨named, colour⟩ : ∃ named, isColour "yellow".toList = .ok named :=
    isColour_of_plain (by decide) (by decide)
  have words : Text.words "bold yellow".toList = ["bold".toList, "yellow".toList] := by decide
  have bold : Trait.ofWord? "bold".toList = some .bold := by decide
  unfold styleName
  rw [words, if_neg (by decide), ofWords?_trait _ (by decide) bold,
    ofWords?_colour (by decide) (by decide) colour]
  cases named <;> decide

/-- The note on the schema shows if its directory has no opening bracket. -/
theorem schemaKept_shows {dbFolder : Text} (unmarked : '[' ∉ dbFolder) :
    ∃ text, (Notice.schemaKept dbFolder).render = .ok text := by
  have opens : Tag.ofInside "bold yellow".toList = .ok ⟨"bold yellow".toList, []⟩ := by
    have cut : "bold yellow".toList.span (· ≠ '=') = ("bold yellow".toList, []) := by decide
    unfold Tag.ofInside
    rw [cut]
    dsimp only
    rw [styleName_note]
    rfl
  have closes (position : Nat) :
      closeTag [⟨"bold yellow".toList, []⟩] "bold yellow".toList position = .ok [] := by
    have whole : Text.trim ("bold yellow".toList.takeWhile (· ≠ '=')) = "bold yellow".toList := by
      decide
    exact closeTag_of_styleName position (by rw [whole]; rfl) (by rw [whole, styleName_note])
      (by decide)
  obtain ⟨text, shows⟩ := styled_shows 'b' '.' "old yellow".toList
    ("\nNote: Schema in ".toList ++ dbFolder ++ "/schema.ts was not modified".toList)
    (by decide) (by decide) opens closes (by simp [unmarked]) (by decide) (by decide) tagless_nil
  have markup : "[bold yellow]\nNote: Schema in ".toList ++ dbFolder
      ++ "/schema.ts was not modified.[/bold yellow]".toList =
      '[' :: ('b' :: "old yellow".toList ++ ']' :: ("\nNote: Schema in ".toList ++ dbFolder
        ++ "/schema.ts was not modified".toList ++ '.' :: '[' ::
          ('/' :: 'b' :: "old yellow".toList ++ ']' :: []))) := by
    simp
  refine ⟨Text.lines (layOut .fold consoleWidth text)
    ++ "      Remove the table definition manually if needed.\n", ?_⟩
  unfold Notice.render print
  dsimp only
  rw [markup, shows]
  rfl

end Console

/-! ## Kinds of failures -/

/-- If the computation fails, then with a failure of the kind. -/
def FailsOnly {α : Type} (kind : Failure → Prop) (x : Except Failure α) : Prop :=
  ∀ failure, x = .error failure → kind failure

namespace FailsOnly

variable {α β : Type} {kind : Failure → Prop} {x : Except Failure α} {next : α → Except Failure β}

theorem ok (a : α) : FailsOnly kind (.ok a) := by
  intro failure failed
  cases failed

theorem error {failure : Failure} (fault : kind failure) :
    FailsOnly kind (.error failure : Except Failure α) := by
  intro other failed
  rwa [← Except.error.inj failed]

theorem bind (first : FailsOnly kind x) (rest : ∀ a, FailsOnly kind (next a)) :
    FailsOnly kind (x >>= next) := by
  cases x with
  | error failure => exact error (first failure rfl)
  | ok a => exact rest a

theorem ite {c : Prop} [Decidable c] {y z : Except Failure α} (yes : FailsOnly kind y)
    (no : FailsOnly kind z) : FailsOnly kind (if c then y else z) := by
  split
  · exact yes
  · exact no

/-- A failure of another kind than those of the rest comes from the part before it. -/
theorem bind_eq_error_iff (rest : ∀ a, FailsOnly kind (next a)) {failure : Failure}
    (other : ¬ kind failure) : (x >>= next) = .error failure ↔ x = .error failure := by
  cases x with
  | error first => simp [Bind.bind, Except.bind]
  | ok a =>
    exact ⟨fun failed => absurd (rest a failure failed) other, fun absent => absurd absent (by simp)⟩

end FailsOnly

/-! ## Faults of markup -/

/-- The failure comes from a closing tag or from what a style is named by. -/
def Failure.isMarkupFault : Failure → Bool
  | unopenedTag _ _ | handlerMalformed _ _ _ | noWhole _ _ => true
  | _ => false

/-- If the result is a failure, it is a fault of markup. -/
def MarkupOnly {α : Type} (result : Except Failure α) : Prop :=
  ∀ failure, result = .error failure → failure.isMarkupFault = true

namespace MarkupOnly

variable {α β : Type}

theorem ok (a : α) : MarkupOnly (.ok a) := FailsOnly.ok a

theorem error {failure : Failure} (fault : failure.isMarkupFault = true) :
    MarkupOnly (.error failure : Except Failure α) :=
  FailsOnly.error fault

theorem bind {result : Except Failure α} {next : α → Except Failure β} (first : MarkupOnly result)
    (second : ∀ a, MarkupOnly (next a)) : MarkupOnly (result >>= next) :=
  FailsOnly.bind first second

end MarkupOnly

namespace Console

theorem isColour_markupOnly (word : Text) : MarkupOnly (isColour word) := by
  unfold isColour
  split
  · exact .ok _
  · split
    · exact .ok _
    · next inside _ =>
      unfold areComponents
      dsimp only
      split
      · exact .ok _
      · split
        · exact .error rfl
        · exact .ok _
    · exact .ok _

theorem ofWords?_markupOnly (style : Style) (role : Style.Role) (words : List Text) :
    MarkupOnly (Style.ofWords? style role words) := by
  induction words generalizing style role with
  | nil => exact .ok _
  | cons word words ih =>
    unfold Style.ofWords?
    cases role with
    | background =>
      refine (isColour_markupOnly _).bind fun named => ?_
      cases named
      · exact .ok _
      · exact ih _ _
    | excluded =>
      dsimp only
      split
      · exact ih _ _
      · exact .ok _
    | link => exact ih _ _
    | any =>
      dsimp only
      split
      · exact ih _ _
      · split
        · exact ih _ _
        · split
          · exact ih _ _
          · split
            · exact ih _ _
            · refine (isColour_markupOnly _).bind fun named => ?_
              cases named
              · exact .ok _
              · exact ih _ _

theorem styleName_markupOnly (s : Text) : MarkupOnly (styleName s) := by
  unfold styleName
  dsimp only
  split
  · exact .ok _
  · refine (ofWords?_markupOnly _ _ _).bind fun style => ?_
    cases style <;> exact .ok _

theorem close_markupOnly (tag : Tag) : MarkupOnly tag.close := by
  unfold Tag.close
  split
  · exact .ok _
  · split
    · exact .ok _
    · split
      · exact .ok _
      · exact .error rfl

theorem closeTag_markupOnly (openTags : List Tag) (inside : Text) (position : Nat) :
    MarkupOnly (closeTag openTags inside position) := by
  unfold closeTag
  dsimp only
  split
  · split
    · exact .error rfl
    · exact (close_markupOnly _).bind fun _ => .ok _
  · refine (styleName_markupOnly _).bind fun name => ?_
    split
    · exact .error rfl
    · exact (close_markupOnly _).bind fun _ => .ok _

theorem showPieces_markupOnly (openTags : List Tag) (pieces : List Piece) :
    MarkupOnly (showPieces openTags pieces) := by
  induction pieces generalizing openTags with
  | nil => exact .ok _
  | cons piece pieces ih =>
    unfold showPieces
    cases piece with
    | plain text => exact (ih _).bind fun _ => .ok _
    | tag position inside =>
      dsimp only
      split
      · exact (closeTag_markupOnly _ _ _).bind fun _ => ih _
      · exact ((styleName_markupOnly _).bind fun _ => .ok _).bind fun _ => ih _

/-- The note on the schema meets no faults but those of markup. -/
theorem schemaKept_markupOnly (dbFolder : Text) :
    MarkupOnly (Notice.schemaKept dbFolder).render := by
  unfold Notice.render print shown
  exact ((((showPieces_markupOnly _ _).bind fun _ => .ok _).bind fun _ => .ok _).bind
    fun _ => .ok _)

end Console

end Groundwork
