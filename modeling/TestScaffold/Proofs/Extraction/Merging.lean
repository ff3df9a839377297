import TestScaffold.Proofs.Extraction.Units
import TestScaffold.Proofs.Swift.DeclaredNames

namespace TestScaffold

open Swift Text

variable {fs : List Fact} {f : Fact} {seen : List String} {source : List Char}

theorem Ordered.eq_of_perm {gs : List Fact} (h : Ordered fs) (h' : Ordered gs) (hperm : fs.Perm gs) :
    fs = gs := by
  rw [← h.mergeSort_eq (List.Perm.refl fs), h'.mergeSort_eq hperm]

def declarationsInOrder (source : List Char) : List Declaration :=
  (functions source ++ properties source).mergeSort fun d e => decide (d.start ≤ e.start)

theorem perm_declarationsInOrder (source : List Char) :
    (declarationsInOrder source).Perm (functions source ++ properties source) :=
  List.mergeSort_perm _ _

theorem increasing_declarationsInOrder (source : List Char) :
    (declarationsInOrder source).Pairwise (·.start < ·.start) := by
  have hsorted : (declarationsInOrder source).Pairwise fun d e => decide (d.start ≤ e.start) = true :=
    List.pairwise_mergeSort (by simp; omega) (by simp; omega) _
  have hdistinct : (functions source ++ properties source).Pairwise fun d e => d.start ≠ e.start := by
    refine List.pairwise_append.2 ⟨?_, ?_, fun d hd e he => start_ne_of_mem hd he⟩
    · exact (increasing_functions source).imp Nat.ne_of_lt
    · exact (increasing_properties source).imp Nat.ne_of_lt
  have happart := ((perm_declarationsInOrder source).pairwise_iff fun h => Ne.symm h).2 hdistinct
  refine (hsorted.and happart).imp fun h => ?_
  have hle := of_decide_eq_true h.1
  omega

theorem ordered_map {ds : List Declaration} (h : ds.Pairwise (·.start < ·.start)) :
    Ordered (ds.map factOfDeclaration) := by
  refine ⟨List.pairwise_map.2 (h.imp fun hlt => ?_), fun f hf => ?_⟩
  · exact Int.ofNat_lt.2 hlt
  · obtain ⟨d, -, rfl⟩ := List.mem_map.1 hf
    exact Int.natCast_nonneg d.start

theorem filter_declarationsInOrder (q : Fact → Bool) (source : List Char) {ds : List Declaration}
    (hds : ds.Pairwise (·.start < ·.start))
    (h : ((functions source ++ properties source).map factOfDeclaration).filter q =
      ds.map factOfDeclaration) :
    ((declarationsInOrder source).map factOfDeclaration).filter q = ds.map factOfDeclaration := by
  have hbase := ordered_map (increasing_declarationsInOrder source)
  refine (hbase.sublist List.filter_sublist).eq_of_perm (ordered_map hds) ?_
  rw [← h]
  exact ((perm_declarationsInOrder source).map _).filter _

theorem kind_of_mem_functions (hf : f ∈ (functions source).map factOfDeclaration) :
    f.kind = .function := by
  obtain ⟨d, hd, rfl⟩ := List.mem_map.1 hf
  exact (namedAt_of_mem_functions hd).1

theorem kind_of_mem_properties (hf : f ∈ (properties source).map factOfDeclaration) :
    f.kind = .property := by
  obtain ⟨d, hd, rfl⟩ := List.mem_map.1 hf
  exact (namedAt_of_mem_properties hd).1

theorem isDeclaration_declarationFacts (source : List Char) :
    ∀ f ∈ declarationFacts source, f.kind.isDeclaration = true := by
  intro f hf
  rcases List.mem_append.1 hf with hf | hf
  · rw [kind_of_mem_functions (firstOfEachName_sublist.subset hf)]
    rfl
  · rw [kind_of_mem_properties (firstOfEachName_sublist.subset hf)]
    rfl

theorem units_declarationFacts (source : List Char) (file : Option String) :
    (buildDeclarations (declarationFacts source) file).units =
      firstOfEachName [] ((declarationsInOrder source).map factOfDeclaration) := by
  have hfunctions : ((declarationsInOrder source).map factOfDeclaration).filter
      (·.kind == .function) = (functions source).map factOfDeclaration := by
    refine filter_declarationsInOrder _ source (increasing_functions source) ?_
    rw [List.map_append, List.filter_append, List.filter_eq_self.2, List.filter_eq_nil_iff.2,
      List.append_nil]
    · exact fun f hf => by simp [kind_of_mem_properties hf]
    · exact fun f hf => by simp [kind_of_mem_functions hf]
  have hproperties : ((declarationsInOrder source).map factOfDeclaration).filter
      (!·.kind == .function) = (properties source).map factOfDeclaration := by
    refine filter_declarationsInOrder _ source (increasing_properties source) ?_
    rw [List.map_append, List.filter_append, List.filter_eq_nil_iff.2, List.filter_eq_self.2,
      List.nil_append]
    · exact fun f hf => by simp [kind_of_mem_properties hf]
    · exact fun f hf => by simp [kind_of_mem_functions hf]
  -- What a pass leaves out has its name taken before it, and so in the merged list.
  have hmerge := (ordered_map (increasing_declarationsInOrder source)).firstOfEachName_merge
    (·.kind == .function)
  rw [hfunctions, hproperties] at hmerge
  rw [← hmerge, buildDeclarations]
  simp only
  rw [List.filter_eq_self.2 (isDeclaration_declarationFacts source)]
  rfl

/-- The units of a source are its first declarations of each name. They stand in the order of the source,
each with its name at its place. -/
theorem units_eq_first_declarations (window : Int) {text : String} (h : blankText text = false) :
    ∃ facts, extract window .declarations text = .ok facts ∧
      let source := text.toList
      let units := (buildDeclarations facts (some text)).units
      units = ((declarationsInOrder source).map factOfDeclaration).eraseDupsBy (·.name == ·.name) ∧
      (∀ d ∈ functions source ++ properties source,
        ∃ f ∈ units, f.name = d.name ∧ f.position ≤ d.start) ∧
      (units.map (·.name)).Nodup ∧
      units.Pairwise (·.position < ·.position) ∧
      (∀ d ∈ functions source, ∀ e ∈ properties source, d.start ≠ e.start) ∧
      ∀ f ∈ units, ∃ front rest, source = front ++ f.name.toList ++ rest ∧
        f.position = front.length := by
  refine ⟨declarationFacts text.toList, by rw [extract, requireText, h]; rfl, ?_⟩
  intro source units
  have hunits : units = firstOfEachName [] ((declarationsInOrder source).map factOfDeclaration) :=
    units_declarationFacts source (some text)
  have hordered := ordered_map (increasing_declarationsInOrder source)
  have hmem {d : Declaration} :
      d ∈ declarationsInOrder source ↔ d ∈ functions source ++ properties source :=
    (perm_declarationsInOrder source).mem_iff
  rw [hunits]
  refine ⟨?_, fun d hd => ?_, nodup_names_firstOfEachName.1,
    hordered.increasing.sublist firstOfEachName_sublist,
    fun d hd e he => start_ne_of_mem hd he, fun f hf => ?_⟩
  · rw [firstOfEachName_eq]
    simp
  · have hfact := List.mem_map_of_mem (f := factOfDeclaration) (hmem.2 hd)
    obtain ⟨g, hg, hname, rfl | hbefore⟩ := exists_first hfact List.not_mem_nil
    · exact ⟨_, hg, rfl, Int.le_refl _⟩
    · have hlt := List.pairwise_pair.1 (hordered.increasing.sublist hbefore)
      exact ⟨g, hg, hname, Int.le_of_lt hlt⟩
  · obtain ⟨d, hd, rfl⟩ := List.mem_map.1 (firstOfEachName_sublist.subset hf)
    obtain ⟨keywords, -, front, gap, rest, hsource, hstart, -⟩ :
        ∃ keywords, NamedAt keywords source d.start d.name.toList := by
      rcases List.mem_append.1 (hmem.1 hd) with hd | hd
      · exact ⟨_, (namedAt_of_mem_functions hd).2⟩
      · exact ⟨_, (namedAt_of_mem_properties hd).2⟩
    exact ⟨front ++ gap, rest, hsource, congrArg Int.ofNat hstart⟩

def repeatedSource : String :=
  "struct Cart \x7b\n    var total: Int\n    func add() \x7b\x7d\n" ++
    "    func total() \x7b\x7d\n    var add: Bool\n\x7d\n"

theorem units_eq_first_declarations_repeated :
    blankText repeatedSource = false ∧
    ∃ facts, extract 100 .declarations repeatedSource = .ok facts ∧
      facts.map (fun f => (f.name, f.position)) =
        [("add", 42), ("total", 60), ("total", 22), ("add", 79)] ∧
      (∃ f ∈ (buildDeclarations facts (some repeatedSource)).units,
        f.name = "total" ∧ f.position ≤ 22) ∧
      ((buildDeclarations facts (some repeatedSource)).units.map (·.name)).Nodup := by
  have htext : blankText repeatedSource = false := by decide
  obtain ⟨facts, hfacts, -, hkept, hnodup, -⟩ := units_eq_first_declarations 100 htext
  have htotal : ∃ d ∈ functions repeatedSource.toList ++ properties repeatedSource.toList,
      d.name = "total" ∧ d.start = 22 := by decide +kernel
  have hfound : (extract 100 .declarations repeatedSource).toOption.map
      (·.map fun f => (f.name, f.position)) =
        some [("add", 42), ("total", 60), ("total", 22), ("add", 79)] := by decide +kernel
  rw [hfacts] at hfound
  obtain ⟨d, hd, hname, hstart⟩ := htotal
  obtain ⟨f, hf, hfname, hplace⟩ := hkept d hd
  exact ⟨htext, facts, hfacts, Option.some.inj hfound,
    ⟨f, hf, hfname.trans hname, by rwa [hstart] at hplace⟩, hnodup⟩

end TestScaffold
