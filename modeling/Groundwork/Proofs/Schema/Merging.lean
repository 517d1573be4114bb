import Groundwork.Proofs.Schema.Appending
import Groundwork.Proofs.Schema.Catalogue

/-!
# Merging imports

The statement that merged symbols are written in is the first import statement of the new text, and
its symbols are read back as they were merged (`importedSymbols_mergeImports`). Whether a statement
begins before it does not depend on it: text before a statement only begins another one if it would
do so before every statement (`isSome_importAt?_iff`). So merging adds exactly the given symbols
(`mergeImports_exact`), and merging twice is merging once (`mergeImports_composes`).
-/

namespace Groundwork.Schema

open Text

/-! ## Text before a statement -/

/-- The text of an import statement up to the name of the module in its package. -/
def ImportForm.lead (f : ImportForm) : Text :=
  "import" ++ (f.gap ++ '\x7b' :: (f.inside ++ '\x7d' :: (f.space ++ ("from" ++ (f.indent ++
    f.opening :: ("drizzle-orm/" : Text))))))

theorem ImportForm.lead_append (f : ImportForm) (s : Text) :
    f.lead ++ s = "import" ++ (f.gap ++ '\x7b' :: (f.inside ++ '\x7d' :: (f.space ++ ("from" ++
      (f.indent ++ f.opening :: ("drizzle-orm/" ++ s)))))) := by
  unfold lead
  simp

theorem ImportForm.text_eq_lead (f : ImportForm) : f.text = f.lead ++ (f.path ++ [f.closing]) := by
  rw [lead_append, ← List.append_nil f.text, text_append]

/-- Text that begins an import statement if another one follows: a whole statement stands in it, or
    it breaks off between the braces or in the name of the module. -/
inductive Opening : Text → Prop
  | whole (f : ImportForm) (rest : Text) : Opening (f.text ++ rest)
  | braces (f : ImportForm) {inside : Text} (noBrace : '\x7d' ∉ inside) :
      Opening ("import" ++ (f.gap ++ '\x7b' :: inside))
  | name (f : ImportForm) {path : Text} (noQuote : path.all (fun c => !isQuote c) = true) :
      Opening (f.lead ++ path)

theorem not_mem_of_all_isBlank {s : Text} {c : Char} (blank : s.all isBlank = true)
    (other : isBlank c = false) : c ∉ s := by
  intro member
  rw [List.all_eq_true.1 blank c member] at other
  cases other

/-- A statement that begins before a text like `import` begins in an opening. -/
theorem opening_of_importAt? {b x : Text} (nonempty : b ≠ [])
    (reads : (importAt? (b ++ 'i' :: 'm' :: x)).isSome = true) : Opening b := by
  obtain ⟨⟨inside, rest⟩, here⟩ := Option.isSome_iff_exists.1 reads
  obtain ⟨g, tail, whole, -, -⟩ := importAt?_eq_some_iff.1 here
  obtain ⟨c, b, rfl⟩ := List.exists_cons_of_ne_nil nonempty
  have gap : 'i' ∉ g.gap := not_mem_of_all_isBlank g.gap_blank rfl
  have space : 'i' ∉ g.space := not_mem_of_all_isBlank g.space_blank rfl
  have indent : 'i' ∉ g.indent := not_mem_of_all_isBlank g.indent_blank rfl
  have noLetter {quote : Char} (isQuote : isQuote quote = true) : 'i' ≠ quote := by
    rintro rfl
    cases isQuote
  -- The letter `i` of the text after `b` stands neither in the rest of the word `import` nor in the
  -- blanks, and the statement goes on with other letters where it has an `i` itself.
  have word : c :: (b ++ 'i' :: 'm' :: x) = 'i' :: (("mport" ++ (g.gap ++ ['\x7b'])) ++
      (g.inside ++ '\x7d' :: ((g.space ++ ("from" ++ (g.indent ++ g.opening :: ("dr" : Text)))) ++
        'i' :: ("zzle-orm/" ++ (g.path ++ g.closing :: tail))))) := by
    rw [← List.cons_append, whole, g.text_append]
    simp
  obtain ⟨rfl, front⟩ := List.cons.inj word
  obtain ⟨b, rfl, list⟩ := cut_before (by simp [gap]) front
  rcases List.append_eq_append_iff.1 list with ⟨b, rfl, brace⟩ | ⟨_, inside, -⟩
  · cases b with
    | nil => cases (List.cons.inj brace).1
    | cons brace' b =>
      obtain ⟨rfl, source⟩ := List.cons.inj brace
      obtain ⟨b, rfl, package⟩ := cut_before
        (by simp [space, indent, noLetter g.opening_quote]) source.symm
      cases b with
      | nil => cases (List.cons.inj (List.cons.inj package).2).1
      | cons c b =>
        obtain ⟨rfl, ending⟩ := List.cons.inj package
        obtain ⟨b, rfl, name⟩ := cut_before (by simp) ending.symm
        rcases List.append_eq_append_iff.1 name with ⟨b, rfl, quote⟩ | ⟨_, path, -⟩
        · cases b with
          | nil => exact absurd (List.cons.inj quote).1.symm (noLetter g.closing_quote)
          | cons quote' b =>
            obtain ⟨rfl, -⟩ := List.cons.inj quote
            have opening := Opening.whole g b
            rw [g.text_append] at opening
            simpa using opening
        · have noQuote := g.path_noQuote
          rw [path, List.all_append, Bool.and_eq_true] at noQuote
          have opening := Opening.name g noQuote.1
          rw [g.lead_append] at opening
          simpa using opening
  · have noBrace := g.inside_noBrace
    rw [inside, List.mem_append, not_or] at noBrace
    have opening := Opening.braces g noBrace.1
    simpa using opening

theorem importAt?_isSome (f : ImportForm) (rest : Text) :
    (importAt? (f.text ++ rest)).isSome = true := by
  rw [importAt?_eq_some_iff.2 ⟨f, rest, rfl, rfl, rfl⟩]
  rfl

/-- A statement has a quotation mark, and something before it. -/
theorem ImportForm.exists_quote (f : ImportForm) :
    ∃ (first : Text) (quote : Char) (rest : Text), f.text = first ++ quote :: rest ∧ first ≠ [] ∧
      first.all (fun c => !isQuote c) = true ∧ isQuote quote = true := by
  rcases split : f.text.span (fun c => !isQuote c) with ⟨first, rest⟩
  obtain ⟨whole, noQuotes, stops⟩ := span_eq_iff.1 split
  cases rest with
  | nil =>
    rw [List.append_nil] at whole
    rw [← whole] at noQuotes
    have opening := List.all_eq_true.1 noQuotes f.opening (by
      rw [f.text_eq_lead, f.lead_append]
      simp)
    simp [f.opening_quote] at opening
  | cons quote rest =>
    have closes : isQuote quote = true := by simpa using stops
    refine ⟨first, quote, rest, whole, ?_, noQuotes, closes⟩
    rintro rfl
    obtain ⟨text, cut⟩ : ∃ text, f.text = 'i' :: text := ⟨_, rfl⟩
    rw [cut] at whole
    rw [← (List.cons.inj whole).1] at closes
    exact absurd closes (by decide)

/-- In an opening a statement begins, whatever statement follows. -/
theorem importAt?_of_opening {b : Text} (opening : Opening b) (f : ImportForm) (tail : Text) :
    (importAt? (b ++ (f.text ++ tail))).isSome = true := by
  cases opening with
  | whole g rest =>
    rw [List.append_assoc]
    exact importAt?_isSome g _
  | @braces g inside noBrace =>
    -- The brace of the statement closes the list.
    have gap : '\x7d' ∉ f.gap := not_mem_of_all_isBlank f.gap_blank rfl
    have reads := importAt?_isSome { f with
      gap := g.gap
      inside := inside ++ ("import" ++ (f.gap ++ '\x7b' :: f.inside))
      gap_blank := g.gap_blank
      inside_nonempty := by simp
      inside_noBrace := by simp [noBrace, f.inside_noBrace, gap] } tail
    unfold ImportForm.text at reads ⊢
    simpa using reads
  | @name g path noQuote =>
    -- The first quotation mark of the statement ends the name.
    obtain ⟨first, quote, rest, whole, nonempty, noQuotes, closes⟩ := f.exists_quote
    have reads := importAt?_isSome { g with
      path := path ++ first
      closing := quote
      path_nonempty := by simp [nonempty]
      path_noQuote := by rw [List.all_append, noQuote, noQuotes]; rfl
      closing_quote := closes } (rest ++ tail)
    rw [ImportForm.text_eq_lead] at reads
    rw [whole]
    unfold ImportForm.lead at reads ⊢
    simpa using reads

/-- Before a statement another one begins exactly in an opening. -/
theorem isSome_importAt?_iff {b : Text} (nonempty : b ≠ []) (f : ImportForm) (tail : Text) :
    (importAt? (b ++ (f.text ++ tail))).isSome = true ↔ Opening b :=
  ⟨opening_of_importAt? nonempty, fun opening => importAt?_of_opening opening f tail⟩

/-- Whether statements begin before a statement does not depend on it. -/
theorem failsWithin_swap {front : Text} {f g : ImportForm} {tail rest : Text}
    (fails : FailsWithin (fun _ s => importAt? s) none front (f.text ++ tail)) :
    FailsWithin (fun _ s => importAt? s) none front (g.text ++ rest) := by
  intro a b cut nonempty
  have here := fails a b cut nonempty
  rw [← Option.not_isSome_iff_eq_none, isSome_importAt?_iff nonempty] at here ⊢
  exact here

/-! ## Symbols -/

/-- The symbols of a statement can be listed again. -/
theorem listable_of_mem_symbols {content : Text} {site : ImportSite}
    (found : ImportSite.find? content = some site) {symbol : Text}
    (member : symbol ∈ site.symbols) : Listable symbol := by
  obtain ⟨statement, -, here⟩ := ImportSite.exists_statement found
  obtain ⟨f, -, -, inside, -⟩ := importAt?_eq_some_iff.1 here
  obtain ⟨listed, nonempty⟩ := List.mem_filter.1 member
  obtain ⟨piece, given, rfl⟩ := List.mem_map.1 listed
  have noComma := not_mem_of_mem_split given
  have within := subset_of_mem_split ',' given
  refine ⟨by simpa using nonempty, trim_trim piece, fun comma => ?_, fun brace => ?_⟩
  · exact noComma (trim_subset piece comma)
  · exact f.inside_noBrace (inside ▸ within (trim_subset piece brace))

variable {content front statement back : Text} {added : List Text}

theorem listable_merged (good : ∀ symbol ∈ added, Listable symbol) (content : Text) :
    ∀ symbol ∈ (importedSymbols content ++ added).eraseDups, Listable symbol := by
  intro symbol member
  rcases List.mem_append.1 (List.mem_eraseDups.1 member) with imported | new
  · unfold importedSymbols at imported
    split at imported
    · cases imported
    · next found => exact listable_of_mem_symbols found imported
  · exact good symbol new

/-- A statement goes over several lines only if one of its symbols does. -/
theorem exists_feed_of_importStatement {symbols : List Text} {dialect : Dialect}
    (feed : '\n' ∈ importStatement symbols dialect) : ∃ symbol ∈ symbols, '\n' ∈ symbol := by
  have module' : '\n' ∉ dialect.module := by cases dialect <;> decide
  have inner : '\n' ∈ List.intercalate ", " symbols := by
    unfold importStatement at feed
    simpa [Text.code, module'] using feed
  rcases mem_intercalate inner with gap | inside
  · simp at gap
  · exact inside

/-! ## The first statement -/

/-- The first import statement of a content stands between a front and a back. -/
structure FirstImport (content front statement back : Text) : Prop where
  cut : content = front ++ statement ++ back
  /-- None begins before it. -/
  first : FailsWithin (fun _ s => importAt? s) none front (statement ++ back)
  reads : ∃ inside, importAt? (statement ++ back) = some (inside, back)

theorem FirstImport.find?_eq (first : FirstImport content front statement back) {inside : Text}
    (reads : importAt? (statement ++ back) = some (inside, back)) :
    ImportSite.find? content = some ⟨front, inside, back⟩ := by
  have found : search (fun _ s => importAt? s) none content = some (front, inside, back) :=
    search_eq_some_iff.2 ⟨statement ++ back, by rw [first.cut, List.append_assoc], first.first,
      reads⟩
  unfold ImportSite.find?
  rw [found]
  rfl

theorem exists_firstImport {site : ImportSite} (found : ImportSite.find? content = some site) :
    ∃ statement, FirstImport content site.front statement site.back := by
  obtain ⟨statement, cut, reads⟩ := ImportSite.exists_statement found
  obtain ⟨⟨front, inside, back⟩, searched, rfl⟩ := Option.map_eq_some_iff.1 found
  obtain ⟨s, whole, fails, -⟩ := search_eq_some_iff.1 searched
  obtain rfl : s = statement ++ back := by
    rw [List.append_assoc, whole] at cut
    exact List.append_cancel_left cut
  exact ⟨statement, cut, fails, _, reads⟩

/-- A generated statement takes the place of the first one. -/
theorem FirstImport.swap (first : FirstImport content front statement back) {symbols : List Text}
    (good : ∀ symbol ∈ symbols, Listable symbol) (dialect : Dialect) :
    FirstImport (front ++ importStatement symbols dialect ++ back) front
      (importStatement symbols dialect) back := by
  refine ⟨rfl, ?_, _, importAt?_importStatement good dialect back⟩
  obtain ⟨inside, reads⟩ := first.reads
  obtain ⟨f, tail, old, -, -⟩ := importAt?_eq_some_iff.1 reads
  obtain ⟨g, -, new⟩ := importStatement_eq good dialect
  have fails := first.first
  rw [old] at fails
  rw [new, List.append_assoc]
  exact failsWithin_swap fails

theorem firstImport_importStatement {symbols : List Text}
    (good : ∀ symbol ∈ symbols, Listable symbol) (dialect : Dialect) (rest : Text) :
    FirstImport (importStatement symbols dialect ++ rest) [] (importStatement symbols dialect)
      rest :=
  ⟨rfl, failsWithin_nil _ _, _, importAt?_importStatement good dialect rest⟩

/-! ## Merging -/

theorem mergeImports_of_first (first : FirstImport content front statement back)
    (added : List Text) (dialect : Dialect) :
    mergeImports content added dialect =
      front ++ importStatement (importedSymbols content ++ added).eraseDups dialect ++ back := by
  obtain ⟨inside, reads⟩ := first.reads
  unfold mergeImports
  rw [first.find?_eq reads]

theorem mergeImports_of_none (absent : ImportSite.find? content = none) (added : List Text)
    (dialect : Dialect) :
    mergeImports content added dialect =
      importStatement (importedSymbols content ++ added).eraseDups dialect ++
        ("\n" ++ content) := by
  unfold mergeImports
  rw [absent]
  exact List.append_assoc _ _ _

/-- Where the merged symbols are written, and between which texts. -/
theorem exists_merged (good : ∀ symbol ∈ added, Listable symbol) (content : Text) :
    ∃ front back, (∀ dialect, FirstImport (mergeImports content added dialect) front
        (importStatement (importedSymbols content ++ added).eraseDups dialect) back) ∧
      ∀ (more : List Text) dialect, mergeImports content more dialect =
        front ++ importStatement (importedSymbols content ++ more).eraseDups dialect ++ back := by
  have listable := listable_merged good content
  cases found : ImportSite.find? content with
  | none =>
    refine ⟨[], "\n" ++ content, fun dialect => ?_, mergeImports_of_none found⟩
    rw [mergeImports_of_none found]
    exact firstImport_importStatement listable dialect _
  | some site =>
    obtain ⟨statement, first⟩ := exists_firstImport found
    refine ⟨site.front, site.back, fun dialect => ?_, mergeImports_of_first first⟩
    rw [mergeImports_of_first first]
    exact first.swap listable dialect

/-- The symbols of a content with merged imports are the old ones and then the new ones, each
    once. -/
theorem importedSymbols_mergeImports (good : ∀ symbol ∈ added, Listable symbol) (content : Text)
    (dialect : Dialect) :
    importedSymbols (mergeImports content added dialect) =
      (importedSymbols content ++ added).eraseDups := by
  have listable := listable_merged good content
  obtain ⟨front, back, first, -⟩ := exists_merged good content
  have found := (first dialect).find?_eq (importAt?_importStatement listable dialect back)
  rw [importedSymbols, found]
  exact symbols_listed listable

/-- Merging adds exactly the given symbols. The statement that lists all symbols takes the place of
    the first import statement, or stands on a line before the content if there was none, and it is
    the first import statement then. Only a symbol with a line feed spreads it over lines. -/
theorem mergeImports_exact (good : ∀ symbol ∈ added, Listable symbol) (content : Text)
    (dialect : Dialect) :
    let merged := (importedSymbols content ++ added).eraseDups
    let line := importStatement merged dialect
    let result := mergeImports content added dialect
    importedSymbols result = merged ∧
    (∀ front statement back, FirstImport content front statement back →
      result = front ++ line ++ back ∧ FirstImport result front line back) ∧
    ((¬ ∃ front statement back, FirstImport content front statement back) →
      result = line ++ "\n" ++ content ∧ FirstImport result [] line ("\n" ++ content)) ∧
    ('\n' ∈ line → ∃ symbol ∈ merged, '\n' ∈ symbol) := by
  intro merged line result
  have listable := listable_merged good content
  refine ⟨importedSymbols_mergeImports good content dialect, fun front statement back first => ?_,
    fun absent => ?_, exists_feed_of_importStatement⟩
  · have text : result = front ++ line ++ back := mergeImports_of_first first added dialect
    rw [text]
    exact ⟨rfl, first.swap listable dialect⟩
  · have none : ImportSite.find? content = none := by
      rw [Option.eq_none_iff_forall_ne_some]
      intro site found
      obtain ⟨statement, first⟩ := exists_firstImport found
      exact absent ⟨_, _, _, first⟩
    have text : result = line ++ ("\n" ++ content) := mergeImports_of_none none added dialect
    rw [text]
    exact ⟨(List.append_assoc _ _ _).symm, firstImport_importStatement listable dialect _⟩

/-- A file with a symbol under another name, a symbol twice, and a statement on two lines. -/
def keyed : Text :=
  Text.code "// tables\nimport ⟦ serial as key,\n  text, text ⟧ from 'drizzle-orm/pg-core'\n"

theorem keyed_merged :
    (∀ symbol ∈ [("pgTable" : Text), "text"], Listable symbol) ∧
      FirstImport keyed "// tables\n"
        (Text.code "import ⟦ serial as key,\n  text, text ⟧ from 'drizzle-orm/pg-core'") "\n" ∧
      importedSymbols (mergeImports keyed ["pgTable", "text"] .postgresql) =
        ["serial as key", "text", "pgTable"] ∧
      mergeImports keyed ["pgTable", "text"] .postgresql = "// tables\n" ++
        importStatement ["serial as key", "text", "pgTable"] .postgresql ++ "\n" := by
  have good : ∀ symbol ∈ [("pgTable" : Text), "text"], Listable symbol := by
    simp only [List.forall_mem_cons, List.not_mem_nil, false_implies, implies_true, and_true]
    exact ⟨⟨by decide, by decide, by decide, by decide⟩,
      ⟨by decide, by decide, by decide, by decide⟩⟩
  have found : ImportSite.find? keyed =
      some ⟨"// tables\n", Text.code " serial as key,\n  text, text ", "\n"⟩ := by decide +kernel
  obtain ⟨statement, first⟩ := exists_firstImport found
  have text : keyed = "// tables\n" ++ (Text.code
    "import ⟦ serial as key,\n  text, text ⟧ from 'drizzle-orm/pg-core'") ++ "\n" := by decide
  obtain rfl := List.append_cancel_left (List.append_cancel_right (first.cut.symm.trans text))
  obtain ⟨symbols, result, -, -⟩ := mergeImports_exact good keyed .postgresql
  have merged : (importedSymbols keyed ++ [("pgTable" : Text), "text"]).eraseDups =
      ["serial as key", "text", "pgTable"] := by decide +kernel
  have written := (result _ _ _ first).1
  rw [merged] at symbols written
  exact ⟨good, first, symbols, written⟩

/-- Merging symbols after others is merging all of them at once, in whatever dialects, and merging
    the same symbols again changes nothing. -/
theorem mergeImports_composes (good : ∀ symbol ∈ added, Listable symbol) (more : List Text)
    (content : Text) (dialect other : Dialect) :
    mergeImports (mergeImports content added dialect) more other =
        mergeImports content (added ++ more) other ∧
      mergeImports (mergeImports content added dialect) added dialect =
        mergeImports content added dialect := by
  obtain ⟨front, back, first, merged⟩ := exists_merged good content
  have twice (more : List Text) (other : Dialect) :
      mergeImports (mergeImports content added dialect) more other =
        mergeImports content (added ++ more) other := by
    rw [mergeImports_of_first (first dialect), importedSymbols_mergeImports good,
      Catalogue.eraseDups_append_left, List.append_assoc (importedSymbols content), merged]
  refine ⟨twice more other, ?_⟩
  have known : added.removeAll (importedSymbols content ++ added) = [] := by
    unfold List.removeAll
    simp +contextual
  rw [twice, merged, merged, ← List.append_assoc, List.eraseDups_append, known]
  simp

/-- So it is where a statement has to be made first. -/
theorem text_merged_twice :
    Listable "text" ∧
      mergeImports (mergeImports "// none\n" ["text"] .sqlite) ["text", "int"] .mysql =
        mergeImports "// none\n" ["text", "text", "int"] .mysql := by
  have good : Listable "text" := ⟨by decide, by decide, by decide, by decide⟩
  have all : ∀ symbol ∈ [("text" : Text)], Listable symbol := by simpa using good
  exact ⟨good, (mergeImports_composes all ["text", "int"] "// none\n" .sqlite .mysql).1⟩

end Groundwork.Schema
