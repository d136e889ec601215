import ClassInference.Proofs.Documents.Meaning
import ClassInference.Proofs.Fields.Merged

/-!
# Absorbed graphs

Documents can be modelled apart and taken in later. Absorbing a graph that comes from documents
creates the nodes that are missing, in their order, and merges the contents of all of them.
Taking note of one more sighting before the graph is absorbed comes to the same as taking note of it
afterwards, so that absorbing the graph of some documents is building from these documents.
-/

namespace ClassInference

open Json (Value)

theorem Content.exists_record {c : Content} (hc : c.isEnumeration = false) :
    ∃ fields, c = .record fields := by
  cases c with
  | record fields => exact ⟨fields, rfl⟩
  | enumeration constants => simp [isEnumeration] at hc

theorem Content.isEnumeration_merge (c other : Content) :
    (c.merge other).isEnumeration = c.isEnumeration := by
  cases c <;> cases other <;> rfl

/-- Take note of a value in the node that is merged, or in the one that takes it in. -/
theorem ClassNode.mergeContent_observe {c d : ClassNode} {fields others : OrderedTable Field}
    (hc : c.content = .record fields) (hd : d.content = .record others) (hkeyed : others.Keyed)
    (key : String) (v : Value) (nested : String) :
    c.mergeContent (d.observe key v nested) = (c.mergeContent d).observe key v nested := by
  have h := Content.mergeFields_note hkeyed fields key v nested
  simp only [mergeContent, observe, mapContent, hc, hd, Content.mapFields, Content.merge]
  exact congrArg (fun t => { c with content := .record t }) h

theorem ClassNode.mergeContent_of_empty {c d : ClassNode} {fields : OrderedTable Field}
    (hc : c.content = .record fields) (hd : d.content = .record ∅) : c.mergeContent d = c := by
  simp only [mergeContent, mapContent, hc, hd, Content.merge]
  exact congrArg (fun t => { c with content := t }) hc.symm

namespace ClassGraph

variable {g h k : ClassGraph} {package name : String} {s : Sighting}

/-- A node as documents create it: under its own name, with fields under their wire names, with no
base, and with a source file unless its package is reserved. -/
structure PlainNode (g : ClassGraph) (name : String) (c : ClassNode) : Prop where
  named : c.name = name
  record : ∃ fields, c.content = .record fields ∧ fields.Keyed
  base : c.base = none
  generate : c.generate = !g.isReserved c.package

/-- All nodes are as documents create them. -/
def Plain (g : ClassGraph) : Prop := g.Every g.PlainNode

theorem PlainNode.of_builtins {c : ClassNode} (hc : g.PlainNode name c)
    (hb : k.builtins = g.builtins) : k.PlainNode name c where
  named := hc.named
  record := hc.record
  base := hc.base
  generate := by rw [hc.generate, isReserved, isReserved, hb]

theorem plainNode_new (g : ClassGraph) (id : Nat) (package name : String) :
    g.PlainNode name (.new id package name (!g.isReserved package)) :=
  ⟨rfl, ⟨∅, rfl, OrderedTable.keyed_empty⟩, rfl, rfl⟩

theorem Plain.ensure (hg : g.Plain) (package name : String) : (g.ensure package name).Plain := by
  have hold : g.Every (g.ensure package name).PlainNode := fun _ _ hc =>
    (hg hc).of_builtins (builtins_ensure g package name)
  exact hold.ensure ((plainNode_new g _ _ _).of_builtins (builtins_ensure g package name))

theorem Plain.observe (hg : g.Plain) (name key : String) (v : Value) (nested : String) :
    (g.modify name (·.observe key v nested)).Plain := by
  have hnodes : (g.modify name (·.observe key v nested)).Every g.PlainNode := by
    apply Every.modify hg
    rintro n c ⟨hn, ⟨fields, hfields, hkeyed⟩, hb, hgen⟩
    refine ⟨hn, ⟨Content.note fields key v nested, ?_, Content.keyed_note hkeyed⟩, hb, hgen⟩
    rw [ClassNode.observe, ClassNode.mapContent, hfields]
    rfl
  exact fun _ _ hc => (hnodes hc).of_builtins rfl

theorem Plain.see (hg : g.Plain) (package : String) (s : Sighting) : (g.see package s).Plain := by
  unfold ClassGraph.see
  split
  · exact hg.ensure package s.className
  · exact (hg.ensure package s.className).observe _ _ _ _

theorem Plain.seeAll (hg : g.Plain) (package : String) (sightings : List Sighting) :
    (g.seeAll package sightings).Plain := by
  induction sightings generalizing g with
  | nil => exact hg
  | cons s rest ih => exact ih (hg.see package s)

theorem Plain.recordsOnly (hg : g.Plain) : g.RecordsOnly := by
  intro n c hc
  obtain ⟨fields, hfields, -⟩ := (hg hc).record
  simp [hfields, Content.isEnumeration]

theorem plain_new (builtins : Builtins) : (new builtins).Plain := by
  have hempty : Plain ⟨∅, builtins, 0, none, none⟩ := by
    intro n c hc
    simp [find?] at hc
  exact hempty.ensure builtins.package builtins.stringType

/-! ### The two steps of absorbing -/

/-- Packages and names of the nodes in order. -/
def labels (g : ClassGraph) : List (String × String) := g.nodes.map fun c => (c.package, c.name)

/-- The graph with the missing nodes of another one, without content. -/
def adopt (g other : ClassGraph) : ClassGraph :=
  other.labels.foldl (fun acc e => acc.ensure e.1 e.2) g

/-- The graph with the contents of another one merged into the nodes of the same names. -/
def mergeNodes (g other : ClassGraph) : ClassGraph :=
  { g with classes := g.classes.map fun name c => (other.find? name).elim c c.mergeContent }

theorem find?_mergeNodes (g other : ClassGraph) (n : String) :
    (g.mergeNodes other).find? n
      = (g.find? n).map fun c => (other.find? n).elim c c.mergeContent :=
  OrderedTable.get?_map _ g.classes n

@[simp] theorem names_mergeNodes (g other : ClassGraph) :
    (g.mergeNodes other).names = g.names := by
  simp [mergeNodes, names]

/-- Merging nodes in turn, each into the node of its own name, when none of them brings in a base
that is not there. -/
theorem foldl_merge_eq {es : List (String × ClassNode)}
    (hes : ∀ e ∈ es, e.2.name = e.1 ∧ (e.2.base = none ∨ e.2.base = g.baseName? e.1)) :
    (es.map Prod.snd).foldl (fun acc c => acc.merge c.name c) g
      = { g with classes :=
            es.foldl (fun acc e => acc.modify e.1 (·.mergeContent e.2)) g.classes } := by
  induction es generalizing g with
  | nil => rfl
  | cons e es ih =>
      obtain ⟨hname, hbase⟩ := hes e List.mem_cons_self
      have hrest : ∀ e' ∈ es, e'.2.name = e'.1 ∧ (e'.2.base = none ∨
          e'.2.base = (g.modify e.1 (·.mergeContent e.2)).baseName? e'.1) := by
        intro e' he'
        rw [(keepsLinks_mergeContent g e.1 e.2).baseName?]
        exact hes e' (List.mem_cons_of_mem _ he')
      rw [List.map_cons, List.foldl_cons, hname, merge_eq_modify hbase, ih hrest]
      rfl

theorem foldl_merge_nodes
    (hh : ∀ n c, h.find? n = some c → c.name = n ∧ (c.base = none ∨ c.base = g.baseName? n)) :
    h.nodes.foldl (fun acc c => acc.merge c.name c) g = g.mergeNodes h := by
  have hclasses := OrderedTable.foldl_modify h.classes.nodup_keys
    (fun d c => ClassNode.mergeContent c d) g.classes
  rw [nodes, OrderedTable.values,
    foldl_merge_eq fun e he => hh e.1 e.2 (OrderedTable.get?_eq_some_iff.2 he), hclasses]
  rfl

/-- Creating the node for a plain node. -/
theorem adoptEmpty_of_plain {c : ClassNode} (hc : h.PlainNode name c)
    (hb : g.builtins = h.builtins) : g.adoptEmpty c = g.ensure c.package c.name := by
  unfold adoptEmpty
  split
  · rename_i hn
    rw [ensure_of_mem_names (contains_iff.1 hn)]
  · rename_i hn
    apply modify_eq_self
    intro d hd
    obtain ⟨fields, hfields, -⟩ := hc.record
    rw [find?_ensure, if_pos rfl, find?_eq_none_iff.2 (mt contains_iff.2 hn), Option.getD_none,
      Option.some.injEq] at hd
    have hreserved : h.isReserved c.package = g.isReserved c.package := by
      rw [isReserved, isReserved, hb]
    rw [← hd, hc.generate, hfields, hreserved]
    rfl

theorem foldl_adoptEmpty_nodes (hh : h.Plain) (hb : g.builtins = h.builtins) :
    h.nodes.foldl adoptEmpty g = g.adopt h := by
  have hes : ∀ c ∈ h.nodes, ∃ name, h.PlainNode name c := fun c hc =>
    have ⟨name, hname⟩ := OrderedTable.mem_values_iff.1 hc
    ⟨name, hh hname⟩
  rw [adopt, labels, List.foldl_map]
  revert hes
  generalize h.nodes = cs
  intro hes
  induction cs generalizing g with
  | nil => rfl
  | cons c cs ih =>
      obtain ⟨name, hc⟩ := hes c List.mem_cons_self
      rw [List.foldl_cons, List.foldl_cons, adoptEmpty_of_plain hc hb,
        ih ((builtins_ensure _ _ _).trans hb) fun d hd => hes d (List.mem_cons_of_mem _ hd)]

/-- Absorbing a graph that comes from documents: missing nodes first, then the contents. -/
theorem absorb_eq (hh : h.Plain) (hb : g.builtins = h.builtins) :
    g.absorb h = (g.adopt h).mergeNodes h := by
  rw [absorb, foldl_adoptEmpty_nodes hh hb,
    foldl_merge_nodes fun _ _ hc => ⟨(hh hc).named, .inl (hh hc).base⟩]

/-! ### One more sighting -/

theorem mem_names_adopt_iff {n : String} :
    n ∈ (g.adopt h).names ↔ n ∈ g.names ∨ n ∈ h.labels.map Prod.snd := by
  unfold adopt
  generalize h.labels = es
  induction es generalizing g with
  | nil => simp
  | cons e es ih =>
      rw [List.foldl_cons, ih, mem_names_ensure, List.map_cons, List.mem_cons, or_assoc]
      exact or_left_comm

theorem mem_names_adopt (hh : h.Plain) (hn : name ∈ h.names) : name ∈ (g.adopt h).names := by
  obtain ⟨c, hc⟩ := exists_find?_of_mem_names hn
  have hlabel : (c.package, c.name) ∈ h.labels :=
    List.mem_map_of_mem (OrderedTable.mem_values_iff.2 ⟨name, hc⟩)
  rw [mem_names_adopt_iff, ← (hh hc).named]
  exact .inr (List.mem_map_of_mem hlabel)

theorem labels_ensure (hn : name ∉ h.names) (package : String) :
    (h.ensure package name).labels = h.labels ++ [(package, name)] := by
  have hentries := OrderedTable.entries_insert_of_not_mem
    (ClassNode.new h.nextId package name (!h.isReserved package)) hn
  unfold ensure
  rw [if_neg (mt contains_iff.1 hn), labels, nodes, OrderedTable.values]
  dsimp only
  rw [hentries, List.map_append, List.map_append]
  rfl

theorem labels_modify {f : ClassNode → ClassNode} (hp : ∀ c, (f c).package = c.package)
    (hn : ∀ c, (f c).name = c.name) (h : ClassGraph) (name : String) :
    (h.modify name f).labels = h.labels := by
  simp only [labels, nodes, OrderedTable.values, modify, OrderedTable.modify, OrderedTable.map,
    List.map_map]
  apply List.map_congr_left
  intro e _
  by_cases he : e.1 = name <;> simp [he, hp, hn]

/-- A node that comes new to the absorbed graph is created by absorbing. -/
theorem mergeNodes_ensure (hk : k.RecordsOnly) (hn : name ∉ h.names) (package : String) :
    (k.ensure package name).mergeNodes (h.ensure package name)
      = (k.mergeNodes h).ensure package name := by
  have hnone : h.find? name = none := find?_eq_none_iff.2 hn
  apply ext_find?
  · rw [builtins_ensure]
    exact builtins_ensure k package name
  · rw [nextId_ensure, names_mergeNodes]
    exact nextId_ensure k package name
  · rw [fileHeader_ensure]
    exact fileHeader_ensure k package name
  · rw [classComment_ensure]
    exact classComment_ensure k package name
  · rw [names_mergeNodes, names_ensure, names_ensure, names_mergeNodes]
  · intro n
    rw [find?_mergeNodes, find?_ensure, find?_ensure, find?_ensure, find?_mergeNodes,
      find?_mergeNodes]
    by_cases hnn : n = name
    · rw [if_pos hnn, if_pos hnn, if_pos hnn, hnone]
      -- what the absorbed graph holds of the class is empty
      cases hc : k.find? name with
      | none => rfl
      | some c =>
          obtain ⟨fields, hfields⟩ := Content.exists_record (hk hc)
          exact congrArg some (ClassNode.mergeContent_of_empty hfields rfl)
    · rw [if_neg hnn, if_neg hnn, if_neg hnn]

/-- A value noted in the absorbed graph is noted by absorbing. -/
theorem mergeNodes_observe (hk : k.RecordsOnly) (hh : h.Plain) (hn : name ∈ h.names) (key : String)
    (v : Value) (nested : String) :
    k.mergeNodes (h.modify name (·.observe key v nested))
      = (k.mergeNodes h).modify name (·.observe key v nested) := by
  obtain ⟨d, hd⟩ := exists_find?_of_mem_names hn
  obtain ⟨others, hothers, hkeyed⟩ := (hh hd).record
  refine ext_find? rfl rfl rfl rfl (by rw [names_modify, names_mergeNodes, names_mergeNodes]) ?_
  intro n
  rw [find?_mergeNodes, find?_modify, find?_modify, find?_mergeNodes]
  by_cases hnn : n = name
  · subst hnn
    cases hc : k.find? n with
    | none => simp
    | some c =>
        obtain ⟨fields, hfields⟩ := Content.exists_record (hk hc)
        simp [hd, ClassNode.mergeContent_observe hfields hothers hkeyed]
  · rw [if_neg hnn, if_neg hnn]

theorem RecordsOnly.adopt (hg : g.RecordsOnly) (h : ClassGraph) : (g.adopt h).RecordsOnly :=
  List.foldlRecOn _ _ hg fun _ hk e _ => hk.ensure e.1 e.2

theorem absorb_ensure (hg : g.RecordsOnly) (hh : h.Plain) (hb : g.builtins = h.builtins)
    (package name : String) :
    g.absorb (h.ensure package name) = (g.absorb h).ensure package name := by
  rw [absorb_eq (hh.ensure package name) (hb.trans (builtins_ensure h package name).symm),
    absorb_eq hh hb]
  by_cases hn : name ∈ h.names
  · have hpresent : name ∈ ((g.adopt h).mergeNodes h).names := by
      rw [names_mergeNodes]
      exact mem_names_adopt hh hn
    rw [ensure_of_mem_names hn, ensure_of_mem_names hpresent]
  · have hadopt : g.adopt (h.ensure package name) = (g.adopt h).ensure package name := by
      rw [adopt, labels_ensure hn, List.foldl_append]
      rfl
    rw [hadopt, mergeNodes_ensure (hg.adopt h) hn]

theorem absorb_observe (hg : g.RecordsOnly) (hh : h.Plain) (hb : g.builtins = h.builtins)
    (hn : name ∈ h.names) (key : String) (v : Value) (nested : String) :
    g.absorb (h.modify name (·.observe key v nested))
      = (g.absorb h).modify name (·.observe key v nested) := by
  have hadopt : g.adopt (h.modify name (·.observe key v nested)) = g.adopt h := by
    have hlabels : (h.modify name (·.observe key v nested)).labels = h.labels := by
      apply labels_modify <;> intro c <;> rfl
    rw [adopt, hlabels, adopt]
  rw [absorb_eq (hh.observe name key v nested) hb, absorb_eq hh hb, hadopt,
    mergeNodes_observe (hg.adopt h) hh hn]

/-- Absorbing and taking note of one more sighting are done in either order. -/
theorem absorb_see (hg : g.RecordsOnly) (hh : h.Plain) (hb : g.builtins = h.builtins)
    (package : String) (s : Sighting) :
    g.absorb (h.see package s) = (g.absorb h).see package s := by
  obtain ⟨className, member?⟩ := s
  cases member? with
  | none => exact absorb_ensure hg hh hb package className
  | some m =>
      obtain ⟨key, v⟩ := m
      have hn : className ∈ (h.ensure package className).names := mem_names_ensure.2 (.inl rfl)
      have hb' : g.builtins = (h.ensure package className).builtins :=
        hb.trans (builtins_ensure h package className).symm
      simp only [see]
      rw [absorb_observe hg (hh.ensure package className) hb' hn,
        absorb_ensure hg hh hb package className]

theorem absorb_seeAll (hg : g.RecordsOnly) (hh : h.Plain) (hb : g.builtins = h.builtins)
    (package : String) (sightings : List Sighting) :
    g.absorb (h.seeAll package sightings) = (g.absorb h).seeAll package sightings := by
  induction sightings generalizing h with
  | nil => rfl
  | cons s rest ih =>
      rw [seeAll_cons, ih (hh.see package s) (hb.trans (builtins_see h package s).symm),
        absorb_see hg hh hb, seeAll_cons]

theorem RecordsOnly.absorb (hg : g.RecordsOnly) (hh : h.Plain) (hb : g.builtins = h.builtins) :
    (g.absorb h).RecordsOnly := by
  rw [absorb_eq hh hb]
  intro n c hc
  rw [find?_mergeNodes] at hc
  obtain ⟨d, hd, rfl⟩ := Option.map_eq_some_iff.1 hc
  have hrecord : d.content.isEnumeration = false := hg.adopt h hd
  cases h.find? n with
  | none => exact hrecord
  | some e => exact (Content.isEnumeration_merge d.content e.content).trans hrecord

/-- A graph of no documents has nothing that is not in another graph with the string type. -/
theorem absorb_new (hg : g.RecordsOnly) {builtins : Builtins} (hb : g.builtins = builtins)
    (hn : builtins.stringType ∈ g.names) : g.absorb (new builtins) = g := by
  have hempty : Plain ⟨∅, builtins, 0, none, none⟩ := by
    intro n c hc
    simp [find?] at hc
  have habsorb : g.absorb ⟨∅, builtins, 0, none, none⟩ = g := rfl
  change g.absorb (ensure _ _ _) = g
  rw [absorb_ensure hg hempty hb, habsorb, ensure_of_mem_names hn]

theorem absorb_runCalls (hg : g.RecordsOnly) (hh : h.Plain) (hb : g.builtins = h.builtins)
    (samples : List Sample) :
    g.absorb (h.runCalls (samples.map Sample.call))
      = (g.absorb h).runCalls (samples.map Sample.call) := by
  induction samples generalizing h with
  | nil => rfl
  | cons s rest ih =>
      change g.absorb ((h.build s.document s.package s.root).runCalls _)
        = ((g.absorb h).build s.document s.package s.root).runCalls _
      rw [build_eq_seeAll hh.recordsOnly, build_eq_seeAll (hg.absorb hh hb),
        ih (hh.seeAll _ _) (hb.trans (builtins_seeAll h _ _).symm), absorb_seeAll hg hh hb]

theorem Plain.runCalls (hg : g.Plain) (samples : List Sample) :
    (g.runCalls (samples.map Sample.call)).Plain ∧
      (g.runCalls (samples.map Sample.call)).builtins = g.builtins := by
  induction samples generalizing g with
  | nil => exact ⟨hg, rfl⟩
  | cons s rest ih =>
      change ((g.build s.document s.package s.root).runCalls _).Plain ∧
        ((g.build s.document s.package s.root).runCalls _).builtins = _
      rw [build_eq_seeAll hg.recordsOnly]
      obtain ⟨hplain, hb⟩ := ih (hg.seeAll s.package (Sighting.ofValue s.root s.document))
      exact ⟨hplain, hb.trans (builtins_seeAll g _ _)⟩

/-- Building from some documents and absorbing the graph of others is building from all of them, one
after the other: the nodes are the same in the same order, with their identities, and so are their
fields with all that was observed. -/
theorem absorb_documents (builtins : Builtins) (earlier later : List Sample) :
    ((new builtins).runCalls (earlier.map Sample.call)).absorb
        ((new builtins).runCalls (later.map Sample.call))
      = (new builtins).runCalls ((earlier ++ later).map Sample.call) := by
  obtain ⟨hplain, hb⟩ := (plain_new builtins).runCalls earlier
  have hstring : builtins.stringType
      ∈ ((new builtins).runCalls (earlier.map Sample.call)).names := by
    rw [mem_names_runCalls_iff (recordsOnly_new builtins), mem_names_new_iff]
    exact .inr rfl
  have hbuiltins : (new builtins).builtins = builtins := builtins_ensure _ _ _
  rw [absorb_runCalls hplain.recordsOnly (plain_new builtins) hb,
    absorb_new hplain.recordsOnly (hb.trans hbuiltins) hstring, List.map_append]
  exact List.foldl_append.symm

end ClassGraph

end ClassInference
