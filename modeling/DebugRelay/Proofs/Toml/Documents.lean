import DebugRelay.Proofs.Toml.Strings

/-!
# Reading documents back

A document of texts and truth values under plain keys, some at the top and the others in tables, is
read as those keys with those values (`parse?_documentText`). Its text is read line by line
(`statements_documentText`), and the statements are built into one table (`build_statements`).
-/

namespace DebugRelay.Toml

open Text Text.Reader

/-! ## Keys -/

/-- A key that needs no quotes. -/
def IsPlainKey (key : String) : Prop := key ≠ "" ∧ ∀ c ∈ key.toList, isKeyChar c = true

instance (key : String) : Decidable (IsPlainKey key) :=
  decidable_of_iff (key ≠ "" ∧ key.toList.all isKeyChar) (by simp [IsPlainKey])

theorem ne_of_isKeyChar {c d : Char} (hc : isKeyChar c = true) (hd : isKeyChar d = false) :
    c ≠ d := by
  rintro rfl
  rw [hc] at hd
  exact absurd hd (by decide)

theorem IsPlainKey.exists_cons {key : String} (h : IsPlainKey key) :
    ∃ c more, key.toList = c :: more ∧ isKeyChar c = true := by
  cases hkey : key.toList with
  | nil => exact absurd (String.toList_eq_nil_iff.1 hkey) h.1
  | cons c more => exact ⟨c, more, rfl, h.2 c (by rw [hkey]; exact List.mem_cons_self)⟩

theorem isInlineBlank_of_isKeyChar {c : Char} (hc : isKeyChar c = true) :
    isInlineBlank c = false := by
  have hspace : c ≠ ' ' := ne_of_isKeyChar hc (by decide)
  have htab : c ≠ '\t' := ne_of_isKeyChar hc (by decide)
  simp [isInlineBlank, hspace, htab]

theorem skipInline_cons {c : Char} (hc : isInlineBlank c = false) (more : List Char) :
    skipInline (c :: more) = c :: more :=
  List.dropWhile_cons_of_neg (by simp [hc])

theorem simpleKey_append {name : String} (h : IsPlainKey name) {rest : List Char}
    (hrest : ∀ c ∈ rest.head?, isKeyChar c = false) :
    simpleKey (name.toList ++ rest) = some (name, rest) := by
  obtain ⟨c, more, hname, hc⟩ := h.exists_cons
  have hdouble : c ≠ '"' := ne_of_isKeyChar hc (by decide)
  have hsingle : c ≠ '\'' := ne_of_isKeyChar hc (by decide)
  have hrun : run1 isKeyChar (name.toList ++ rest) = some (name.toList, rest) :=
    run1_append (by simp [hname]) h.2 hrest
  rw [hname, List.cons_append] at hrun ⊢
  rw [simpleKey, hrun, Option.map_some, ← hname]
  · simp only [String.ofList_toList]
  · exact fun _ heq => hdouble (List.cons.inj heq).1
  · exact fun _ heq => hsingle (List.cons.inj heq).1

/-- A lone key, up to what stands behind it. -/
theorem key_append {name : String} (h : IsPlainKey name) {rest : List Char}
    (hrest : ∀ c ∈ rest.head?, isKeyChar c = false)
    (hdot : ∀ c ∈ (skipInline rest).head?, c ≠ '.') :
    key (name.toList ++ rest) = some ([name], skipInline rest) := by
  obtain ⟨c, more, hname, hc⟩ := h.exists_cons
  have hskip : skipInline (name.toList ++ rest) = name.toList ++ rest := by
    rw [hname, List.cons_append, skipInline_cons (isInlineBlank_of_isKeyChar hc)]
  have hparts : keyParts (name.toList ++ rest) = some ([name], skipInline rest) := by
    rw [keyParts, hskip, simpleKey_append h hrest]
    simp only
    split
    · next heq => exact absurd rfl (hdot '.' (by rw [heq]; rfl))
    · rfl
  simp [key, hparts, keyLimit]

/-! ## Values -/

/-- A literal begins with one of the quotes. -/
theorem StringForm.write_eq_cons (cs : List Char) (form : StringForm) :
    ∃ c more, form.write cs = c :: more ∧ (c = '"' ∨ c = '\'') := by
  cases form with
  | basic => exact ⟨'"', _, rfl, Or.inl rfl⟩
  | literal => exact ⟨'\'', _, rfl, Or.inr rfl⟩
  | multiBasic => exact ⟨'"', _, rfl, Or.inl rfl⟩
  | multiLiteral => exact ⟨'\'', _, rfl, Or.inr rfl⟩

theorem value_stringLiteral (depth : Nat) (s : String) {rest : List Char}
    (hrest : ∀ c ∈ rest.head?, c ≠ '"' ∧ c ≠ '\'') :
    value depth ((stringLiteral s).toList ++ rest) = some (.string s, rest) := by
  have hread := quotedString_stringLiteral s hrest
  obtain ⟨c, more, hwrite, hc⟩ := StringForm.write_eq_cons s.toList (.fitting s.toList)
  have htext : (stringLiteral s).toList = c :: more := by rw [stringLiteral, hwrite]; simp
  rw [htext, List.cons_append] at hread ⊢
  rcases hc with rfl | rfl
  · rw [value, hread, Option.map_some]
  · rw [value, hread, Option.map_some]

theorem value_text (depth : Nat) (v : Leaf) (rest : List Char) :
    value depth (v.text.toList ++ '\n' :: rest) = some (v.value, '\n' :: rest) := by
  cases v with
  | string s => exact value_stringLiteral depth s (by simp)
  | boolean b =>
    cases b with
    | true => cases depth <;> rfl
    | false => cases depth <;> rfl

/-! ## Lines -/

/-- The line of a key. -/
def line (f : String × Leaf) : List Char :=
  f.1.toList ++ (' ' :: '=' :: ' ' :: f.2.text.toList) ++ ['\n']

/-- The line of a key as a statement. -/
def pairStatement (f : String × Leaf) : Statement := .pair [f.1] f.2.value

/-- The header of a table. -/
def header (name : String) : List Char := '[' :: name.toList ++ [']', '\n']

theorem lineEnd_newline (rest : List Char) : lineEnd ('\n' :: rest) = some ((), rest) := rfl

/-- No blank stands in front of a value. -/
theorem skipInline_text (v : Leaf) (rest : List Char) :
    skipInline (' ' :: (v.text.toList ++ rest)) = v.text.toList ++ rest := by
  have hfirst : ∃ c more, v.text.toList = c :: more ∧ isInlineBlank c = false := by
    cases v with
    | string s =>
      obtain ⟨c, more, hwrite, hc⟩ := StringForm.write_eq_cons s.toList (.fitting s.toList)
      refine ⟨c, more, ?_, by rcases hc with rfl | rfl <;> rfl⟩
      rw [Leaf.text, stringLiteral, String.toList_ofList, hwrite]
    | boolean b =>
      cases b with
      | true => exact ⟨'t', ['r', 'u', 'e'], rfl, rfl⟩
      | false => exact ⟨'f', ['a', 'l', 's', 'e'], rfl, rfl⟩
  obtain ⟨c, more, htext, hc⟩ := hfirst
  rw [htext, List.cons_append]
  exact skipInline_cons hc _

theorem pair_append {f : String × Leaf} (h : IsPlainKey f.1) (rest : List Char) :
    pair (value nestingLimit) (line f ++ rest) = some (([f.1], f.2.value), '\n' :: rest) := by
  have hkey : key (f.1.toList ++ ' ' :: '=' :: ' ' :: (f.2.text.toList ++ '\n' :: rest)) =
      some ([f.1], '=' :: ' ' :: (f.2.text.toList ++ '\n' :: rest)) :=
    key_append h (by intro c hc; obtain rfl := Option.some.inj hc; decide)
      (by intro c hc; obtain rfl := Option.some.inj hc; decide)
  have hline : line f ++ rest =
      f.1.toList ++ ' ' :: '=' :: ' ' :: (f.2.text.toList ++ '\n' :: rest) := by
    simp [line]
  simp only [hline, pair, hkey, literal, Option.bind_eq_bind, Option.bind_some, if_true,
    skipInline_text, value_text]

theorem statement_line {f : String × Leaf} (h : IsPlainKey f.1) (rest : List Char) :
    statement (line f ++ rest) = some (pairStatement f, rest) := by
  have hpair := pair_append h rest
  obtain ⟨c, more, hname, hc⟩ := h.exists_cons
  have hbracket : c ≠ '[' := ne_of_isKeyChar hc (by decide)
  have hline : line f ++ rest =
      c :: (more ++ (' ' :: '=' :: ' ' :: f.2.text.toList) ++ ['\n'] ++ rest) := by
    rw [line, hname]
    rfl
  rw [hline] at hpair ⊢
  rw [statement]
  · simp only [hpair, lineEnd_newline, Option.bind_eq_bind, Option.bind_some]
    rfl
  · exact fun _ heq => hbracket (List.cons.inj heq).1
  · exact fun _ heq => hbracket (List.cons.inj heq).1

theorem statement_header {name : String} (h : IsPlainKey name) (rest : List Char) :
    statement (header name ++ rest) = some (.table [name], rest) := by
  have hkey : key (name.toList ++ ']' :: '\n' :: rest) = some ([name], ']' :: '\n' :: rest) :=
    key_append h (by intro c hc; obtain rfl := Option.some.inj hc; decide)
      (by intro c hc; obtain rfl := Option.some.inj hc; decide)
  obtain ⟨c, more, hname, hc⟩ := h.exists_cons
  have hbracket : c ≠ '[' := ne_of_isKeyChar hc (by decide)
  have hheader : header name ++ rest = '[' :: c :: (more ++ ']' :: '\n' :: rest) := by
    simp [header, hname]
  rw [hname, List.cons_append] at hkey
  rw [hheader, statement]
  · simp only [hkey, Option.bind_eq_bind, Option.bind_some]
    rfl
  · exact fun _ heq => hbracket (List.cons.inj heq).1

theorem skipLines_cons {c : Char} (hblank : isInlineBlank c = false) (hcomment : c ≠ '#')
    (hline : c ≠ '\n') (hreturn : c ≠ '\r') (more : List Char) :
    skipLines (c :: more) = c :: more := by
  have hinline := skipInline_cons hblank more
  have hnone : newline (c :: more) = none := by
    unfold newline
    split <;> simp_all
  have hnote : skipComment (c :: more) = c :: more := by
    unfold skipComment
    split <;> simp_all
  rw [skipLines, hinline, hnote, hnone]

theorem skipLines_newline (cs : List Char) : skipLines ('\n' :: cs) = skipLines cs := by
  rw [skipLines]
  simp [skipInline, isInlineBlank, skipComment, newline]

/-- A statement takes a character at least, which the length shows. -/
theorem statements_of_statement {cs start rest : List Char} {s : Statement}
    (hskip : skipLines cs = start) (hne : start ≠ []) (hread : statement start = some (s, rest))
    (hless : rest.length < cs.length) :
    statements cs = (statements rest).map (s :: ·) := by
  obtain ⟨c, more, rfl⟩ := List.exists_cons_of_ne_nil hne
  rw [statements, hskip]
  simp only [hread, if_pos hless]

theorem statements_section {s : Section} (h : ∀ f ∈ s, IsPlainKey f.1) (rest : List Char) :
    statements (s.flatMap line ++ rest) = (statements rest).map (s.map pairStatement ++ ·) := by
  induction s with
  | nil => simp
  | cons f s ih =>
    have hf : IsPlainKey f.1 := h f List.mem_cons_self
    obtain ⟨c, more, hname, hc⟩ := hf.exists_cons
    have hskip : skipLines (line f ++ (s.flatMap line ++ rest)) =
        line f ++ (s.flatMap line ++ rest) := by
      rw [line, hname]
      exact skipLines_cons (isInlineBlank_of_isKeyChar hc)
        (ne_of_isKeyChar hc (by decide)) (ne_of_isKeyChar hc (by decide))
        (ne_of_isKeyChar hc (by decide)) _
    have hless : (s.flatMap line ++ rest).length < (line f ++ (s.flatMap line ++ rest)).length := by
      have hpos : 0 < (line f).length := List.length_pos_iff.2 (by simp [line])
      simp only [List.length_append]
      omega
    rw [List.flatMap_cons, List.append_assoc,
      statements_of_statement hskip (by simp [line]) (statement_line hf _) hless,
      ih fun g hg => h g (List.mem_cons_of_mem f hg), Option.map_map]
    rfl

/-- A table after a blank line. -/
def tableChars (t : String × Section) : List Char := '\n' :: header t.1 ++ t.2.flatMap line

/-- A table as statements. -/
def tableStatements (t : String × Section) : List Statement :=
  .table [t.1] :: t.2.map pairStatement

theorem statements_tables {tables : List (String × Section)}
    (h : ∀ t ∈ tables, IsPlainKey t.1 ∧ ∀ f ∈ t.2, IsPlainKey f.1) :
    statements (tables.flatMap tableChars) = some (tables.flatMap tableStatements) := by
  induction tables with
  | nil =>
    rw [List.flatMap_nil, statements, skipLines]
    rfl
  | cons t tables ih =>
    obtain ⟨hname, hkeys⟩ := h t List.mem_cons_self
    have hskip : skipLines (tableChars t ++ tables.flatMap tableChars) =
        header t.1 ++ (t.2.flatMap line ++ tables.flatMap tableChars) := by
      rw [tableChars, List.cons_append, List.cons_append, skipLines_newline, List.append_assoc]
      exact skipLines_cons (by decide) (by decide) (by decide) (by decide) _
    rw [List.flatMap_cons, statements_of_statement hskip (by simp [header])
      (statement_header hname _) (by simp [tableChars, header]; omega),
      statements_section hkeys, ih fun x hx => h x (List.mem_cons_of_mem t hx)]
    rfl

/-- The statements of a document. -/
def documentStatements (top : Section) (tables : List (String × Section)) : List Statement :=
  top.map pairStatement ++ tables.flatMap tableStatements

theorem toList_sectionText (s : Section) : (sectionText s).toList = s.flatMap line := by
  rw [sectionText, String.toList_join, List.flatMap_map]
  refine List.flatMap_congr fun f _ => ?_
  simp [line]

theorem toList_documentText (top : Section) (tables : List (String × Section)) :
    (documentText top tables).toList = top.flatMap line ++ tables.flatMap tableChars := by
  rw [documentText, String.toList_append, toList_sectionText, String.toList_join, List.flatMap_map]
  refine congrArg (top.flatMap line ++ ·) (List.flatMap_congr fun t _ => ?_)
  simp [tableChars, header, toList_sectionText]

theorem statements_documentText {top : Section} {tables : List (String × Section)}
    (htop : ∀ f ∈ top, IsPlainKey f.1)
    (htables : ∀ t ∈ tables, IsPlainKey t.1 ∧ ∀ f ∈ t.2, IsPlainKey f.1) :
    statements (documentText top tables).toList = some (documentStatements top tables) := by
  rw [toList_documentText, statements_section htop, statements_tables htables]
  rfl

/-! ## Building the table -/

namespace Draft

@[simp]
theorem nodes_withNodes (t : Draft) (l : List (String × Node)) : (t.withNodes l).nodes = l := by
  cases t
  rfl

@[simp]
theorem isDotted_withNodes (t : Draft) (l : List (String × Node)) :
    (t.withNodes l).isDotted = t.isDotted := by
  cases t
  rfl

@[simp]
theorem withNodes_withNodes (t : Draft) (l l' : List (String × Node)) :
    (t.withNodes l).withNodes l' = t.withNodes l' := by
  cases t
  rfl

@[simp]
theorem withNodes_nodes (t : Draft) : t.withNodes t.nodes = t := by
  cases t
  rfl

variable {t : Draft} {key : String}

theorem node?_of_notMem (h : key ∉ t.nodes.map Prod.fst) : t.node? key = none := by
  rw [node?, List.lookup_eq_none_iff]
  intro f hf
  rw [bne_iff_ne]
  rintro rfl
  exact h (List.mem_map_of_mem hf)

/-- A new key goes behind the others. -/
theorem put_of_notMem (h : key ∉ t.nodes.map Prod.fst) (n : Node) :
    t.put key n = t.withNodes (t.nodes ++ [(key, n)]) := by
  have hnone : (t.nodes.any fun f => f.1 == key) = false := by
    rw [List.any_eq_false]
    intro f hf heq
    exact h ((beq_iff_eq.1 heq) ▸ List.mem_map_of_mem hf)
  rw [put, hnone]
  simp

theorem set_of_notMem (hdotted : t.isDotted = false) (h : key ∉ t.nodes.map Prod.fst) (v : Toml) :
    t.set [key] v = some (t.withNodes (t.nodes ++ [(key, .value v)])) := by
  simp [set, descend, hdotted, node?_of_notMem h, put_of_notMem h]

theorem open?_of_notMem (h : key ∉ t.nodes.map Prod.fst) : t.open? [key] = some (t, .empty) := by
  simp [open?, descend, node?_of_notMem h]

theorem place_of_notMem (h : key ∉ t.nodes.map Prod.fst) (current : Draft) :
    t.place [key] current = some (t.withNodes (t.nodes ++ [(key, .table current)])) := by
  simp [place, descend, node?_of_notMem h, put_of_notMem h]

end Draft

/-- What a key of a section holds. -/
def leafNode (f : String × Leaf) : String × Node := (f.1, .value f.2.value)

/-- What the name of a table holds. -/
def tableNode (t : String × Section) : String × Node :=
  (t.1, .table (.mk false false (t.2.map leafNode)))

/-- New keys go behind those of the current table. -/
theorem foldlM_pairStatement {b : Building} {s : Section} (hdotted : b.current.isDotted = false)
    (hnodup : (b.current.nodes.map Prod.fst ++ s.map Prod.fst).Nodup) :
    (s.map pairStatement).foldlM Building.step b =
      some { b with current := b.current.withNodes (b.current.nodes ++ s.map leafNode) } := by
  induction s generalizing b with
  | nil => simp
  | cons f s ih =>
    have hfresh : f.1 ∉ b.current.nodes.map Prod.fst := by
      intro hmem
      exact (List.nodup_append.1 hnodup).2.2 f.1 hmem f.1 List.mem_cons_self rfl
    have hset := Draft.set_of_notMem hdotted hfresh f.2.value
    rw [List.map_cons, List.foldlM_cons, pairStatement, Building.step, hset]
    simp only [Option.map_some, Option.bind_eq_bind, Option.bind_some]
    rw [ih]
    · simp [leafNode]
    · simpa using hdotted
    · simpa using hnodup

/-- A new table goes behind what there is. -/
theorem foldlM_tableStatements {b : Building} {root : Draft} {t : String × Section}
    (hfinish : b.finish = some root) (hname : t.1 ∉ root.nodes.map Prod.fst)
    (hnodup : (t.2.map Prod.fst).Nodup) :
    ∃ b', (tableStatements t).foldlM Building.step b = some b' ∧
      b'.finish = some (root.withNodes (root.nodes ++ [tableNode t])) := by
  have hopen : Building.step b (.table [t.1]) = some ⟨root, .empty, [t.1], false⟩ := by
    simp [Building.step, hfinish, Draft.open?_of_notMem hname]
  have hpairs : (t.2.map pairStatement).foldlM Building.step ⟨root, .empty, [t.1], false⟩ =
      some ⟨root, .mk false false (t.2.map leafNode), [t.1], false⟩ :=
    foldlM_pairStatement rfl (by simpa [Draft.empty, Draft.nodes] using hnodup)
  refine ⟨⟨root, .mk false false (t.2.map leafNode), [t.1], false⟩, ?_, ?_⟩
  · rw [tableStatements, List.foldlM_cons, hopen]
    exact hpairs
  · exact Draft.place_of_notMem hname _

theorem foldlM_tables {b : Building} {root : Draft} {tables : List (String × Section)}
    (hfinish : b.finish = some root)
    (hnodup : (root.nodes.map Prod.fst ++ tables.map Prod.fst).Nodup)
    (hkeys : ∀ t ∈ tables, (t.2.map Prod.fst).Nodup) :
    ∃ b', (tables.flatMap tableStatements).foldlM Building.step b = some b' ∧
      b'.finish = some (root.withNodes (root.nodes ++ tables.map tableNode)) := by
  induction tables generalizing b root with
  | nil => exact ⟨b, rfl, by simpa using hfinish⟩
  | cons t tables ih =>
    have hname : t.1 ∉ root.nodes.map Prod.fst := by
      intro hmem
      exact (List.nodup_append.1 hnodup).2.2 t.1 hmem t.1 List.mem_cons_self rfl
    obtain ⟨b₁, hstep, hfinish₁⟩ :=
      foldlM_tableStatements hfinish hname (hkeys t List.mem_cons_self)
    obtain ⟨b₂, hrest, hfinish₂⟩ := ih hfinish₁ (by simpa [tableNode] using hnodup)
      fun x hx => hkeys x (List.mem_cons_of_mem t hx)
    refine ⟨b₂, ?_, by simpa using hfinish₂⟩
    rw [List.flatMap_cons, List.foldlM_append, hstep]
    exact hrest

/-- The field of a key. -/
def leafField (f : String × Leaf) : String × Toml := (f.1, f.2.value)

/-- The data of a document. -/
def documentValue (top : Section) (tables : List (String × Section)) : Toml :=
  .table (top.map leafField ++ tables.map fun t => (t.1, .table (t.2.map leafField)))

theorem fieldValues_map_leafNode (s : Section) :
    Draft.fieldValues (s.map leafNode) = s.map leafField := by
  induction s with
  | nil => rfl
  | cons f s ih =>
    rw [List.map_cons, leafNode, Draft.fieldValues, ih, Draft.nodeValue]
    rfl

theorem fieldValues_map_tableNode (tables : List (String × Section)) :
    Draft.fieldValues (tables.map tableNode) =
      tables.map fun t => (t.1, .table (t.2.map leafField)) := by
  induction tables with
  | nil => rfl
  | cons t tables ih =>
    rw [List.map_cons, tableNode, Draft.fieldValues, ih, Draft.nodeValue, Draft.fields,
      fieldValues_map_leafNode]
    rfl

theorem fieldValues_append (l l' : List (String × Node)) :
    Draft.fieldValues (l ++ l') = Draft.fieldValues l ++ Draft.fieldValues l' := by
  induction l with
  | nil => rfl
  | cons n l ih =>
    rw [List.cons_append, Draft.fieldValues, ih]
    rfl

theorem build_documentStatements {top : Section} {tables : List (String × Section)}
    (hnodup : (top.map Prod.fst ++ tables.map Prod.fst).Nodup)
    (hkeys : ∀ t ∈ tables, (t.2.map Prod.fst).Nodup) :
    build (documentStatements top tables) = some (documentValue top tables) := by
  have htop : (top.map pairStatement).foldlM Building.step Building.start =
      some ⟨.empty, .mk false false (top.map leafNode), [], false⟩ :=
    foldlM_pairStatement rfl (by simpa [Building.start, Draft.empty, Draft.nodes] using
      (List.nodup_append.1 hnodup).1)
  obtain ⟨b, htables, hfinish⟩ :=
    foldlM_tables (b := ⟨.empty, .mk false false (top.map leafNode), [], false⟩) rfl
      (by simpa [Draft.nodes, leafNode, Function.comp_def] using hnodup) hkeys
  have hall : (documentStatements top tables).foldlM Building.step Building.start = some b := by
    rw [documentStatements, List.foldlM_append, htop]
    exact htables
  simp only [build, hall, hfinish, Option.bind_eq_bind, Option.bind_some]
  rw [Draft.withNodes, Draft.fields, Draft.nodes, fieldValues_append, fieldValues_map_leafNode,
    fieldValues_map_tableNode]
  rfl

/-! ## Documents -/

/-- A section whose keys need no quotes and are all different. -/
structure IsPlainSection (s : Section) : Prop where
  plain : ∀ f ∈ s, IsPlainKey f.1
  nodup : (s.map Prod.fst).Nodup

/-- A document whose keys need no quotes and are all different where they stand. -/
structure IsPlainDocument (top : Section) (tables : List (String × Section)) : Prop where
  keys : ∀ f ∈ top, IsPlainKey f.1
  names : ∀ t ∈ tables, IsPlainKey t.1
  sections : ∀ t ∈ tables, IsPlainSection t.2
  nodup : (top.map Prod.fst ++ tables.map Prod.fst).Nodup

/-- No byte order mark stands in front of a document. -/
theorem head?_documentText {top : Section} {tables : List (String × Section)}
    (h : IsPlainDocument top tables) :
    ∀ c ∈ (documentText top tables).toList.head?, c ≠ '\ufeff' := by
  rw [toList_documentText]
  cases top with
  | cons f top =>
    obtain ⟨c, more, hname, hc⟩ := (h.keys f List.mem_cons_self).exists_cons
    simpa [line, hname] using ne_of_isKeyChar hc (by decide)
  | nil =>
    cases tables with
    | cons t tables => simp [tableChars]
    | nil => simp

theorem parse?_documentText {top : Section} {tables : List (String × Section)}
    (h : IsPlainDocument top tables) :
    parse? (documentText top tables) = some (documentValue top tables) := by
  have hread := statements_documentText h.keys fun t ht => ⟨h.names t ht, (h.sections t ht).plain⟩
  have hbuild := build_documentStatements h.nodup fun t ht => (h.sections t ht).nodup
  have hmark := head?_documentText h
  unfold parse?
  split
  · next heq => exact absurd rfl (hmark '\ufeff' (by rw [heq]; rfl))
  · simp only [hread, Option.bind_eq_bind, Option.bind_some, hbuild]

end DebugRelay.Toml
