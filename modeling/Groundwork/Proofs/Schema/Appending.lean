import Groundwork.Proofs.Schema.ImportLine
import Groundwork.Schema.File

/-!
# What appending keeps

A model is appended after a line feed, and the imports are merged in the whole file. The new text
moves no import statement: the first one of the old text stays the first one, and none begins in the
old text and ends in the new (`ImportSite.find?_append`). So the old text stays around its statement
and the new text follows (`append_keeps_text`).
-/

namespace Groundwork.Schema

open Text

/-! ## Quotation marks of an import statement -/

/-- The text from its first closing brace on. -/
def fromBrace (s : Text) : Text := s.dropWhile (· ≠ '\x7d')

theorem fromBrace_of_not_mem {s : Text} (absent : '\x7d' ∉ s) (t : Text) :
    fromBrace (s ++ '\x7d' :: t) = '\x7d' :: t := by
  unfold fromBrace
  rw [List.dropWhile_append_of_pos]
  · simp
  · intro c member
    have other : c ≠ '\x7d' := by
      rintro rfl
      exact absent member
    simpa using other

/-- What follows some closing brace is at the end of what follows the first one. -/
theorem suffix_fromBrace (s t : Text) : '\x7d' :: t <:+ fromBrace (s ++ '\x7d' :: t) := by
  induction s with
  | nil => simp [fromBrace]
  | cons c s ih =>
    by_cases brace : c = '\x7d'
    · subst brace
      have here : fromBrace ('\x7d' :: s ++ '\x7d' :: t) = '\x7d' :: (s ++ '\x7d' :: t) := by
        simp [fromBrace]
      rw [here]
      exact List.suffix_append ('\x7d' :: s) ('\x7d' :: t)
    · have skip : fromBrace (c :: s ++ '\x7d' :: t) = fromBrace (s ++ '\x7d' :: t) := by
        simp [fromBrace, brace]
      rw [skip]
      exact ih

theorem countP_isQuote_of_blank {s : Text} (blank : s.all isBlank = true) :
    s.countP isQuote = 0 := by
  rw [List.countP_eq_zero]
  intro c member quote
  have noBlank := not_isBlank_of_isQuote quote
  rw [List.all_eq_true.1 blank c member] at noBlank
  cases noBlank

namespace ImportForm

/-- What follows the closing brace of a statement. -/
def source (f : ImportForm) : Text :=
  f.space ++ ("from" ++ (f.indent ++ f.opening :: ("drizzle-orm/" ++ (f.path ++ [f.closing]))))

theorem text_eq (f : ImportForm) :
    f.text = ("import" ++ (f.gap ++ '\x7b' :: f.inside)) ++ '\x7d' :: f.source := by
  unfold text source
  simp

/-- A statement ends with the quotation mark that closes the module's name. -/
theorem text_concat (f : ImportForm) : ∃ s, f.text = s ++ [f.closing] := by
  refine ⟨"import" ++ (f.gap ++ '\x7b' :: (f.inside ++ '\x7d' :: (f.space ++ ("from" ++ (f.indent ++
    f.opening :: ("drizzle-orm/" ++ f.path)))))), ?_⟩
  unfold text
  simp

/-- After the brace stand the two quotation marks around the module's name. -/
theorem countP_source (f : ImportForm) : f.source.countP isQuote = 2 := by
  have path : f.path.countP isQuote = 0 := by
    rw [List.countP_eq_zero]
    intro c member
    simpa using List.all_eq_true.1 f.path_noQuote c member
  have lead : ("drizzle-orm/" : Text).countP isQuote = 0 := by decide
  have preposition : ("from" : Text).countP isQuote = 0 := by decide
  unfold source
  simp only [List.countP_append, List.countP_cons, List.countP_nil, f.opening_quote,
    f.closing_quote, countP_isQuote_of_blank f.space_blank, countP_isQuote_of_blank f.indent_blank,
    path, lead, preposition, if_true]

/-- The first closing brace of a statement is its own. -/
theorem fromBrace_text (f : ImportForm) : fromBrace f.text = '\x7d' :: f.source := by
  have gap : '\x7d' ∉ f.gap := by
    intro member
    exact absurd (List.all_eq_true.1 f.gap_blank _ member) (by decide)
  rw [f.text_eq]
  refine fromBrace_of_not_mem ?_ _
  simp [gap, f.inside_noBrace]

/-- No statement reaches over another one: it would have a third quotation mark. -/
theorem eq_nil_of_text_eq {f g : ImportForm} {x tail e : Text}
    (reaches : g.text = x ++ (f.text ++ tail) ++ e) : e = [] := by
  by_contra nonempty
  obtain ⟨e, c, rfl⟩ := (List.eq_nil_or_concat e).resolve_left nonempty
  have last : isQuote c = true := by
    obtain ⟨s, ends⟩ := g.text_concat
    rw [reaches, List.concat_eq_append, ← List.append_assoc] at ends
    rw [List.singleton_inj.1 (List.append_inj' ends rfl).2]
    exact g.closing_quote
  have cut : g.text = (x ++ ("import" ++ (f.gap ++ '\x7b' :: f.inside))) ++
      '\x7d' :: (f.source ++ tail ++ (e ++ [c])) := by
    rw [reaches, f.text_eq]
    simp
  have within := suffix_fromBrace (x ++ ("import" ++ (f.gap ++ '\x7b' :: f.inside)))
    (f.source ++ tail ++ (e ++ [c]))
  rw [← cut, g.fromBrace_text] at within
  have quotes := within.sublist.countP_le (p := isQuote)
  have brace : isQuote '\x7d' = false := by decide
  simp only [List.countP_cons, List.countP_append, countP_source, List.countP_nil, last, brace,
    if_true, Bool.false_eq_true, if_false] at quotes
  omega

end ImportForm

/-! ## Statements in a longer text -/

/-- Where an import statement follows in the text, what is appended makes no new one begin. -/
theorem importAt?_append_eq_none {x s y : Text} {found : Text × Text}
    (here : importAt? s = some found) (fails : importAt? (x ++ s) = none) :
    importAt? (x ++ s ++ y) = none := by
  obtain ⟨f, tail, rfl, -, -⟩ := importAt?_eq_some_iff.1 (show importAt? s = some (found.1, found.2)
    from here)
  rw [Option.eq_none_iff_forall_ne_some]
  rintro ⟨inside, rest⟩ longer
  obtain ⟨g, after, same, -, -⟩ := importAt?_eq_some_iff.1 longer
  have shorter : ∃ e, x ++ (f.text ++ tail) = g.text ++ e := by
    rcases List.append_eq_append_iff.1 same with ⟨e, cut, -⟩ | ⟨e, cut, -⟩
    · have empty := ImportForm.eq_nil_of_text_eq cut
      exact ⟨[], by rw [cut, empty]; simp⟩
    · exact ⟨e, cut⟩
  obtain ⟨e, cut⟩ := shorter
  have begins : importAt? (x ++ (f.text ++ tail)) = some (g.inside, dropOne ';' e) :=
    importAt?_eq_some_iff.2 ⟨g, e, cut, rfl, rfl⟩
  rw [fails] at begins
  cases begins

theorem dropOne_append {c : Char} {y : Text} (other : y.head? ≠ some c) (s : Text) :
    dropOne c (s ++ y) = dropOne c s ++ y := by
  cases s with
  | cons d s =>
    by_cases same : d = c
    · simp [dropOne, same]
    · simp [dropOne, same]
  | nil =>
    cases y with
    | nil => rfl
    | cons d y =>
      have different : d ≠ c := by simpa using other
      simp [dropOne, different]

/-- A statement stays as it is when text is appended that does not begin with a semicolon. -/
theorem importAt?_append {s inside rest y : Text} (here : importAt? s = some (inside, rest))
    (noSemicolon : y.head? ≠ some ';') : importAt? (s ++ y) = some (inside, rest ++ y) := by
  obtain ⟨f, tail, rfl, rfl, rfl⟩ := importAt?_eq_some_iff.1 here
  refine importAt?_eq_some_iff.2 ⟨f, tail ++ y, by simp, rfl, ?_⟩
  exact (dropOne_append noSemicolon tail).symm

namespace ImportSite

/-- The first import statement of a text is found again when text is appended. -/
theorem find?_append {content y : Text} {site : ImportSite} (found : find? content = some site)
    (noSemicolon : y.head? ≠ some ';') :
    find? (content ++ y) = some { site with back := site.back ++ y } := by
  obtain ⟨⟨front, inside, back⟩, searched, rfl⟩ := Option.map_eq_some_iff.1 found
  obtain ⟨s, rfl, fails, here⟩ := search_eq_some_iff.1 searched
  have longer : search (fun _ s => importAt? s) none (front ++ s ++ y) =
      some (front, inside, back ++ y) := by
    refine search_eq_some_iff.2 ⟨s ++ y, by simp, ?_, importAt?_append here noSemicolon⟩
    intro a b cut nonempty
    have short : importAt? (b ++ s) = none := fails a b cut nonempty
    have long : importAt? (b ++ s ++ y) = none := importAt?_append_eq_none here short
    rwa [List.append_assoc] at long
  unfold find?
  rw [longer]
  rfl

/-- The first import statement stands between the text before it and the text after it. -/
theorem exists_statement {content : Text} {site : ImportSite}
    (found : find? content = some site) :
    ∃ statement, content = site.front ++ statement ++ site.back ∧
      importAt? (statement ++ site.back) = some (site.inside, site.back) := by
  obtain ⟨⟨front, inside, back⟩, searched, rfl⟩ := Option.map_eq_some_iff.1 found
  obtain ⟨s, rfl, -, here⟩ := search_eq_some_iff.1 searched
  obtain ⟨f, tail, rfl, -, same⟩ := importAt?_eq_some_iff.1 here
  have semicolon : ∃ t, tail = t ++ back := by
    subst same
    cases tail with
    | nil => exact ⟨[], rfl⟩
    | cons c tail =>
      by_cases semicolon : c = ';'
      · exact ⟨[c], by simp [dropOne, semicolon]⟩
      · exact ⟨[], by simp [dropOne, semicolon]⟩
  obtain ⟨t, rfl⟩ := semicolon
  refine ⟨f.text ++ t, by simp, ?_⟩
  rwa [List.append_assoc]

/-- Every import statement names the package. -/
theorem find?_eq_none {content : Text} (absent : ¬ ("drizzle-orm/" : Text) <:+: content) :
    find? content = none := by
  unfold find?
  rw [Option.map_eq_none_iff, search_eq_none_iff]
  rintro front s rfl
  rw [Option.eq_none_iff_forall_ne_some]
  rintro ⟨inside, rest⟩ here
  obtain ⟨f, tail, rfl, -, -⟩ := importAt?_eq_some_iff.1 here
  apply absent
  refine ⟨front ++ ("import" ++ (f.gap ++ '\x7b' :: (f.inside ++ '\x7d' :: (f.space ++ ("from" ++
    (f.indent ++ [f.opening])))))), f.path ++ f.closing :: tail, ?_⟩
  rw [f.text_append]
  simp

end ImportSite

/-- A text without a line feed stands on one side of a line feed. -/
theorem infix_append_feed {p a b : Text} (noFeed : '\n' ∉ p) (inside : p <:+: a ++ '\n' :: b) :
    p <:+: a ∨ p <:+: b := by
  obtain ⟨x, y, same⟩ := inside
  rw [List.append_assoc] at same
  rcases List.append_eq_append_iff.1 same with ⟨e, rfl, cut⟩ | ⟨e, rfl, cut⟩
  · obtain ⟨z, rfl, -⟩ := cut_before noFeed cut.symm
    exact .inl ⟨x, z, by simp⟩
  · cases e with
    | nil =>
      cases p with
      | nil => exact .inl (List.nil_infix)
      | cons c p =>
        obtain ⟨rfl, -⟩ := List.cons.inj cut
        simp at noFeed
    | cons c e =>
      obtain ⟨-, rfl⟩ := List.cons.inj cut
      exact .inr ⟨e, y, by simp⟩

/-- Appending a model changes the first import statement of a file and nothing else in it: what
    stands before and after the statement stays, then the definitions follow after an empty line. A
    file that names no package gets a statement of its own in front. -/
theorem append_keeps_text (content : Text) (names : ModelNames) (fields : List Field)
    (dialect : Dialect) (options : Options) :
    let gap : Text := if endsWith "\n" content then "\n" else "\n\n"
    let block := definitions names fields dialect options
    let added := requiredImports fields dialect options
    (∀ site, ImportSite.find? content = some site →
      (∃ statement, content = site.front ++ statement ++ site.back ∧
        importAt? (statement ++ site.back) = some (site.inside, site.back)) ∧
      append content names fields dialect options =
        site.front ++ importStatement (site.symbols ++ added).eraseDups dialect ++ site.back
          ++ gap ++ block ++ "\n") ∧
    (¬ ("drizzle-orm/" : Text) <:+: content → ¬ ("drizzle-orm/" : Text) <:+: block →
      append content names fields dialect options =
        importStatement added.eraseDups dialect ++ "\n" ++ content ++ gap ++ block ++ "\n") := by
  intro gap block added
  have feed : gap = "\n" ∨ gap = "\n\n" := by
    by_cases ended : endsWith "\n" content = true
    · exact .inl (if_pos ended)
    · exact .inr (if_neg ended)
  have whole : append content names fields dialect options =
      mergeImports (content ++ (gap ++ (block ++ "\n"))) added dialect := by
    unfold append
    simp only [List.append_assoc]
    rfl
  refine ⟨fun site found => ⟨ImportSite.exists_statement found, ?_⟩, fun absent absentNew => ?_⟩
  · have noSemicolon : (gap ++ (block ++ "\n")).head? ≠ some ';' := by
      rcases feed with same | same
      · simp [same]
      · simp [same]
    rw [whole]
    unfold mergeImports importedSymbols
    rw [ImportSite.find?_append found noSemicolon]
    simp only [ImportSite.symbols, List.append_assoc]
  · have noFeed : '\n' ∉ ("drizzle-orm/" : Text) := by decide
    have absentEnd : ¬ ("drizzle-orm/" : Text) <:+: block ++ '\n' :: [] := by
      intro inside
      rcases infix_append_feed noFeed inside with here | here
      · exact absentNew here
      · simp at here
    have nowhere : ¬ ("drizzle-orm/" : Text) <:+: content ++ (gap ++ (block ++ "\n")) := by
      intro inside
      rcases feed with same | same
      · rw [same] at inside
        rcases infix_append_feed noFeed inside with here | here
        · exact absent here
        · exact absentEnd here
      · rw [same] at inside
        rcases infix_append_feed noFeed inside with here | here
        · exact absent here
        · rcases infix_append_feed (a := []) noFeed here with here | here
          · simp at here
          · exact absentEnd here
    rw [whole]
    unfold mergeImports importedSymbols
    rw [ImportSite.find?_eq_none nowhere]
    simp only [List.nil_append, List.append_assoc]

/-- A file with a statement in another layout, and one without a statement. -/
theorem append_to_edited_files :
    append (Text.code "// tables\nimport ⟦serial⟧ from 'drizzle-orm/pg-core'\n// more")
        (ModelNames.ofName "post") [] .postgresql {} =
      "// tables\n" ++ importStatement (([("serial" : Text)] ++
        requiredImports [] .postgresql {}).eraseDups) .postgresql ++ "\n// more" ++ "\n\n"
        ++ definitions (ModelNames.ofName "post") [] .postgresql {} ++ "\n" ∧
    append "// tables\n" (ModelNames.ofName "post") [] .postgresql {} =
      importStatement (requiredImports [] .postgresql {}).eraseDups .postgresql ++ "\n"
        ++ "// tables\n" ++ "\n" ++ definitions (ModelNames.ofName "post") [] .postgresql {}
        ++ "\n" := by
  constructor
  · have found : ImportSite.find?
        (Text.code "// tables\nimport ⟦serial⟧ from 'drizzle-orm/pg-core'\n// more") =
        some ⟨"// tables\n", "serial", "\n// more"⟩ := by decide +kernel
    exact ((append_keeps_text _ (ModelNames.ofName "post") [] .postgresql {}).1 _ found).2
  · exact (append_keeps_text "// tables\n" (ModelNames.ofName "post") [] .postgresql {}).2
      (by decide +kernel) (by decide +kernel)

end Groundwork.Schema
