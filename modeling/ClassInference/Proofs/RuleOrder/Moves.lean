import ClassInference.Proofs.Order.Edits
import ClassInference.Proofs.RuleOrder.FreshFields
import ClassInference.Proofs.TypeRenames.Moves

/-!
# Single moves

What stands under each name after a class has moved, the links to it led on. Where two classes
arrive at one name, they are merged in either order.
-/

namespace ClassInference

/-! ### Redirected links -/

namespace ClassNode

variable {a b x y : String} {c d : ClassNode}

/-- The node with its link to `old` led on to `new`; the class `new` itself loses the link. -/
def redirect (old new : String) (c : ClassNode) : ClassNode :=
  if c.base = some old then { c with base := if c.name = new then none else some new } else c

theorem redirect_of_base_ne (h : c.base ≠ some a) : c.redirect a x = c := if_neg h

theorem base_redirect (h : c.name ≠ x) :
    (c.redirect a x).base = c.base.map fun p => if p = a then x else p := by
  unfold redirect
  cases hbase : c.base with
  | none => simp [hbase]
  | some p => by_cases hp : p = a <;> simp [hbase, hp, h]

@[simp] theorem content_redirect : (c.redirect a x).content = c.content := by
  unfold redirect
  split <;> rfl

theorem mergeContent_redirect (c d : ClassNode) :
    c.mergeContent (d.redirect a x) = c.mergeContent d := by
  unfold mergeContent
  rw [content_redirect]

theorem redirect_mergeContent (c d : ClassNode) :
    (c.redirect a x).mergeContent d = (c.mergeContent d).redirect a x := by
  unfold redirect
  split <;> rename_i h
  · rw [if_pos (show (c.mergeContent d).base = some a from h)]
    rfl
  · rw [if_neg (show (c.mergeContent d).base ≠ some a from h)]

theorem redirect_withName (hc : c.name ≠ x) (hy : y ≠ x) :
    ClassNode.redirect a x { c with name := y } = { c.redirect a x with name := y } := by
  unfold redirect
  by_cases h : c.base = some a
  · simp [h, hc, hy]
  · simp [h]

/-- Links are led on from two classes in either order, if neither is where the other one goes. -/
theorem redirect_comm (hab : a ≠ b) (hxb : x ≠ b) (hya : y ≠ a) (c : ClassNode) :
    (c.redirect a x).redirect b y = (c.redirect b y).redirect a x := by
  by_cases ha : c.base = some a
  · have hb : c.base ≠ some b := by simp [ha, hab]
    rw [redirect_of_base_ne hb]
    apply redirect_of_base_ne
    by_cases hname : c.name = x <;> simp [redirect, ha, hname, hxb]
  · rw [redirect_of_base_ne ha]
    symm
    apply redirect_of_base_ne
    by_cases hb : c.base = some b
    · by_cases hname : c.name = y <;> simp [redirect, hb, hname, hya]
    · rwa [redirect_of_base_ne hb]

theorem map_redirect_comm (hab : a ≠ b) (hxb : x ≠ b) (hya : y ≠ a) (c? : Option ClassNode) :
    (c?.map (·.redirect a x)).map (·.redirect b y)
      = (c?.map (·.redirect b y)).map (·.redirect a x) := by
  cases c? with
  | none => rfl
  | some c => exact congrArg some (redirect_comm hab hxb hya c)

theorem Alike.redirect (h : c.Alike d) (old new : String) :
    (c.redirect old new).Alike (d.redirect old new) := by
  have hbase : (if d.name = new then none else some new)
      = if c.name = new then none else some new := by rw [h.name]
  unfold ClassNode.redirect
  rw [h.base, hbase]
  split
  · exact h.withBase _
  · exact h

end ClassNode

namespace ClassGraph

variable {g : ClassGraph} {old new n a b : String} {origin : ClassNode}

theorem find?_redirectBases (g : ClassGraph) (old new n : String) :
    (g.redirectBases old new).find? n = (g.find? n).map (·.redirect old new) :=
  find?_mapNodes _ _ _

/-! ### One move -/

/-- What stands under the new name: the class that was there with the other one taken in, or the
class that moves. -/
def arrived (old new : String) (origin : ClassNode) (target? : Option ClassNode) : ClassNode :=
  (target?.elim { origin with name := new } (·.mergeContent origin)).redirect old new

/-- The first class has no base, or the base of the second one, which has nothing to take over
then. -/
def LeavesBase (g : ClassGraph) (a b : String) : Prop :=
  g.baseName? a = none ∨ g.baseName? a = g.baseName? b

/-- A class moves that leaves the base as it is if it is folded. -/
theorem find?_moveClass (hbuiltin : g.isBuiltin old = false) (hne : old ≠ new)
    (horigin : g.find? old = some origin) (hbase : new ∈ g.names → g.LeavesBase old new)
    (n : String) :
    (g.moveClass old new).find? n
      = if n = old then none
        else if n = new then some (arrived old new origin (g.find? new))
        else (g.find? n).map (·.redirect old new) := by
  by_cases hnew : new ∈ g.names
  · obtain ⟨target, htarget⟩ := exists_find?_of_mem_names hnew
    have hkept : (g.erase old).find? new = some target := by
      rw [find?_erase, if_neg (Ne.symm hne), htarget]
    have hbases : origin.base = none ∨ origin.base = (g.erase old).baseName? new := by
      have h := hbase hnew
      rw [LeavesBase, baseName?, baseName?, horigin, htarget] at h
      rwa [baseName?, hkept]
    rw [moveClass_of_mem_names hbuiltin hne horigin hnew, find?_redirectBases,
      merge_eq_modify hbases, find?_modify, find?_erase, htarget]
    by_cases hold : n = old
    · have hn : n ≠ new := hold.trans_ne hne
      rw [if_neg hn, if_pos hold, if_pos hold, Option.map_none]
    · rw [if_neg hold, if_neg hold]
      by_cases hn : n = new
      · rw [if_pos hn, if_pos hn, hn, htarget]
        rfl
      · rw [if_neg hn, if_neg hn]
  · have hnone : g.find? new = none := find?_eq_none_iff.2 hnew
    rw [moveClass_of_not_mem_names hbuiltin hne horigin hnew, find?_redirectBases,
      find?_rekey hnew, horigin, hnone]
    by_cases hold : n = old
    · have hn : n ≠ new := hold.trans_ne hne
      rw [if_neg hn, if_pos hold, if_pos hold, Option.map_none]
    · rw [if_neg hold, if_neg hold]
      by_cases hn : n = new
      · rw [if_pos hn, if_pos hn]
        rfl
      · rw [if_neg hn, if_neg hn]

/-- A move leaves the identities of all other names as they are. -/
theorem identity?_moveClass_of_ne (hold : n ≠ old) (hnew : n ≠ new) :
    (g.moveClass old new).identity? n = g.identity? n := by
  by_cases hstays : g.isBuiltin old = true ∨ old = new ∨ old ∉ g.names
  · rw [moveClass_of_stays hstays]
  · rw [not_or, not_or, Bool.not_eq_true, not_not] at hstays
    rw [identity?_moveClass hstays.1 hstays.2.1 hstays.2.2, if_neg hold, if_neg hnew]

theorem exists_find?_of_moveClass {c : ClassNode} (hc : (g.moveClass old new).find? n = some c)
    (hold : n ≠ old) (hnew : n ≠ new) : ∃ d, g.find? n = some d ∧ d.identity = c.identity := by
  apply Option.map_eq_some_iff.1
  change g.identity? n = _
  rw [← identity?_moveClass_of_ne hold hnew, identity?, hc, Option.map_some]

theorem isBuiltin_moveClass_of_ne (hold : n ≠ old) (hnew : n ≠ new) :
    (g.moveClass old new).isBuiltin n = g.isBuiltin n :=
  isBuiltin_congr (builtins_moveClass g old new) (identity?_moveClass_of_ne hold hnew)

theorem mem_names_moveClass_of_ne (hold : n ≠ old) (hnew : n ≠ new) :
    n ∈ (g.moveClass old new).names ↔ n ∈ g.names := by
  rw [← isSome_identity?_iff, identity?_moveClass_of_ne hold hnew, isSome_identity?_iff]

/-- The move changes nothing. -/
def Stays (g : ClassGraph) (old new : String) : Prop :=
  g.isBuiltin old = true ∨ old = new ∨ old ∉ g.names

instance (g : ClassGraph) (old new : String) : Decidable (g.Stays old new) :=
  inferInstanceAs (Decidable (_ ∨ _))

theorem not_stays_iff :
    ¬ g.Stays old new ↔
      g.isBuiltin old = false ∧ old ≠ new ∧ ∃ origin, g.find? old = some origin := by
  rw [Stays, not_or, not_or, Bool.not_eq_true, not_not, ← find?_isSome_iff,
    Option.isSome_iff_exists]

theorem mem_names_of_moves (hmoves : ¬ g.Stays old new) : old ∈ g.names := by
  obtain ⟨-, -, c, hc⟩ := not_stays_iff.1 hmoves
  exact mem_names_of_find? hc

theorem Stays.moveClass_eq (h : g.Stays old new) : g.moveClass old new = g := moveClass_of_stays h

/-- Another move does not decide whether a move changes anything. -/
theorem stays_moveClass_iff {b y : String} (hold : b ≠ old) (hnew : b ≠ new) :
    (g.moveClass old new).Stays b y ↔ g.Stays b y := by
  rw [Stays, Stays, isBuiltin_moveClass_of_ne hold hnew, mem_names_moveClass_of_ne hold hnew]

theorem Named.moveClass (hg : g.Named) (old new : String) : (g.moveClass old new).Named := by
  have hmove := g.move_moveClass old new
  generalize g.moveClass old new = moved at hmove
  cases hmove with
  | stays => exact hg
  | renamed _ _ _ hnew => exact named_redirectBases (named_rekey hg hnew)
  | folded => exact named_redirectBases (named_mergeFrom _ _ _ (Every.erase hg old))

/-- A node has the identity that a node had before the move. -/
theorem exists_identity_eq_of_moveClass {c : ClassNode}
    (hc : (g.moveClass old new).find? n = some c) :
    ∃ m d, g.find? m = some d ∧ d.identity = c.identity := by
  have hid : (g.moveClass old new).identity? n = some c.identity := by
    rw [identity?, hc, Option.map_some]
  by_cases hstays : g.Stays old new
  · rw [hstays.moveClass_eq] at hc
    exact ⟨n, c, hc, rfl⟩
  · obtain ⟨hbuiltin, hne, origin, horigin⟩ := not_stays_iff.1 hstays
    rw [identity?_moveClass hbuiltin hne (mem_names_of_find? horigin)] at hid
    split at hid
    · contradiction
    · split at hid
      · rcases (Option.orElse_eq_some _ _ _).1 hid with hid | ⟨-, hid⟩
        · obtain ⟨d, hd, hdc⟩ := Option.map_eq_some_iff.1 hid
          exact ⟨new, d, hd, hdc⟩
        · obtain ⟨d, hd, hdc⟩ := Option.map_eq_some_iff.1 hid
          exact ⟨old, d, hd, hdc⟩
      · obtain ⟨d, hd, hdc⟩ := Option.map_eq_some_iff.1 hid
        exact ⟨n, d, hd, hdc⟩

theorem Fresh.named (hg : g.Fresh) : g.Named := fun _ _ hc => (hg hc).named

/-- A move leaves a fresh graph fresh. -/
theorem Fresh.moveClass (hg : g.Fresh) (old new : String) : (g.moveClass old new).Fresh := by
  have hmerges : MergeInvariant
      (fun content => content.isEnumeration = false ∧ content.fields.FreshFields)
      (fun content => content.isEnumeration = false ∧ content.fields.FreshFields) := by
    refine ⟨fun _ hc => hc, fun content other hc ho => ?_⟩
    obtain ⟨fields, rfl⟩ := Content.exists_record hc.1
    obtain ⟨fields', rfl⟩ := Content.exists_record ho.1
    exact ⟨rfl, Content.freshFields_mergeFields hc.2 ho.2⟩
  have hcontents := EveryContent.moveClass hmerges (fun _ _ hc => (hg hc).fresh) old new
  apply Fresh.of_builtins (builtins_moveClass g old new)
  intro n c hc
  obtain ⟨m, d, hd, hdc⟩ := exists_identity_eq_of_moveClass hc
  have hgenerate : d.generate = c.generate := congrArg Identity.generate hdc
  have hpackage : d.package = c.package := congrArg Identity.package hdc
  refine ⟨hg.named.moveClass old new hc, hcontents hc, ?_⟩
  rw [← hgenerate, ← hpackage]
  exact (hg hd).generate

/-! ### Two moves -/

section Exchange

variable {x y : String} {c d : ClassNode}

/-- Where only one of two classes arrives, it arrives in either order. -/
theorem arrived_redirect (hab : a ≠ b) (hxb : x ≠ b) (hya : y ≠ a) (hxy : x ≠ y) (hc : c.name = a)
    (target? : Option ClassNode) :
    arrived a x (c.redirect b y) (target?.map (·.redirect b y))
      = (arrived a x c target?).redirect b y := by
  rw [arrived, arrived, ClassNode.redirect_comm hab hxb hya]
  congr 1
  cases target? with
  | none => exact (ClassNode.redirect_withName (hc.trans_ne hya.symm) hxy).symm
  | some t =>
      change (t.redirect b y).mergeContent (c.redirect b y) = _
      rw [ClassNode.mergeContent_redirect, ClassNode.redirect_mergeContent]
      rfl

/-- Where both classes arrive at a third one, they are merged into it in either order. -/
theorem alike_arrived_comm (hab : a ≠ b) (hxa : x ≠ a) (hxb : x ≠ b) {target : ClassNode}
    (ht : target.Fresh) (hc : c.Fresh) (hd : d.Fresh) :
    (arrived b x (d.redirect a x) (some (arrived a x c (some target)))).Alike
      (arrived a x (c.redirect b x) (some (arrived b x d (some target)))) := by
  have hmerged := ht.mergeContent_right_comm hc hd
  have hfirst : arrived b x (d.redirect a x) (some (arrived a x c (some target)))
      = (((target.mergeContent c).mergeContent d).redirect a x).redirect b x := by
    change ((((target.mergeContent c).redirect a x).mergeContent (d.redirect a x))).redirect b x = _
    rw [ClassNode.mergeContent_redirect, ClassNode.redirect_mergeContent]
  have hsecond : arrived a x (c.redirect b x) (some (arrived b x d (some target)))
      = (((target.mergeContent d).mergeContent c).redirect a x).redirect b x := by
    change ((((target.mergeContent d).redirect b x).mergeContent (c.redirect b x))).redirect a x = _
    rw [ClassNode.mergeContent_redirect, ClassNode.redirect_mergeContent,
      ClassNode.redirect_comm hab.symm hxa hxb]
  rw [hfirst, hsecond]
  exact (hmerged.redirect a x).redirect b x

theorem arrived_pair (a b x : String) (c d : ClassNode) :
    arrived b x (d.redirect a x) (some (arrived a x c none))
      = ((ClassNode.mergeContent { c with name := x } d).redirect a x).redirect b x := by
  rw [arrived, arrived, Option.elim_some, Option.elim_none, ClassNode.mergeContent_redirect,
    ClassNode.redirect_mergeContent]

/-- Where two classes of one base arrive at a free name, either of them gives the node, the other
one its fields. -/
theorem alike_arrived_of_free (hab : a ≠ b) (hxa : x ≠ a) (hxb : x ≠ b) (hc : g.FreshNode a c)
    (hd : g.FreshNode b d) (hpackage : c.package = d.package) (hbase : c.base = d.base) :
    (arrived b x (d.redirect a x) (some (arrived a x c none))).Alike
      (arrived a x (c.redirect b x) (some (arrived b x d none))) := by
  have hgenerate : c.generate = d.generate := by rw [hc.generate, hd.generate, hpackage]
  have hcontent : (ClassNode.mergeContent { c with name := x } d).content.Alike
      (ClassNode.mergeContent { d with name := x } c).content := by
    change (c.content.merge d.content).Alike (d.content.merge c.content)
    rw [hc.fresh.record, hd.fresh.record]
    exact .record (Content.alike_mergeFields_comm hc.fresh.2 hd.fresh.2)
  have hnode : ClassNode.mergeContent { d with name := x } c
      = { ClassNode.mergeContent { c with name := x } d with
          id := d.id
          content := (ClassNode.mergeContent { d with name := x } c).content } := by
    rw [ClassNode.mk.injEq]
    exact ⟨rfl, hpackage.symm, rfl, rfl, hbase.symm, hgenerate.symm⟩
  have hmerged : (ClassNode.mergeContent { c with name := x } d).Alike
      (ClassNode.mergeContent { d with name := x } c) := by
    rw [hnode]
    exact .renumber d.id hcontent
  rw [arrived_pair, arrived_pair, ClassNode.redirect_comm hab.symm hxa hxb]
  exact (hmerged.redirect a x).redirect b x

end Exchange

end ClassGraph

end ClassInference
