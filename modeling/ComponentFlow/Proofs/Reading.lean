import ComponentFlow.Component.RenderTree
import Mathlib.Algebra.BigOperators.Group.List.Basic
import Mathlib.Algebra.Ring.Nat
import Mathlib.Data.List.Forall2
import Mathlib.Tactic.Lemma

/-!
# Reading markup as a recursion

Markup is read with a work list, and the tree is put together afterwards from the lists in the order
of reading. The same tree comes of a recursion over the nested items (`readOutput_eq_ok_iff`), and
one reads exactly what the other reads. They may differ in the fault that they report, since the
work list meets the items in another order.

What carries the argument is an invariant of the stack from which nodes are closed: the lists on top
of it are the trees of the lists on the work list, in the same order. So an item that is closed
finds its own lists on top, and leaves those of the others (`close_iff`, `closeAll_iff`). The work
list never grows beyond the number of values in the items, so it is always finished
(`cost_readShell_le`). -/

namespace ComponentFlow.Reader

/-! ## Results -/

section Results

variable {α β : Type}

lemma bind_eq_ok_iff {x : Result α} {f : α → Result β} {b : β} :
    (x >>= f) = .ok b ↔ ∃ a, x = .ok a ∧ f a = .ok b := by
  cases x <;> simp [bind, Except.bind]

lemma pure_eq_ok_iff {a b : α} : (pure a : Result α) = .ok b ↔ a = b := by
  simp [pure, Except.pure]

/-- All items of a list are read if each of them is. -/
lemma mapM_eq_ok_iff {f : α → Result β} {xs : List α} {ys : List β} :
    xs.mapM f = .ok ys ↔ List.Forall₂ (fun x y => f x = .ok y) xs ys := by
  induction xs generalizing ys with
  | nil => rw [List.mapM_nil, pure_eq_ok_iff, List.forall₂_nil_left_iff, eq_comm]
  | cons x rest ih =>
    simp only [List.mapM_cons, bind_eq_ok_iff, pure_eq_ok_iff, List.forall₂_cons_left_iff, ih]
    constructor
    · rintro ⟨y, hy, ys', hys', rfl⟩
      exact ⟨y, ys', hy, hys', rfl⟩
    · rintro ⟨y, ys', hy, hys', rfl⟩
      exact ⟨y, hy, ys', hys', rfl⟩

end Results

/-! ## The recursion -/

/-- A list below an item is no larger than the entries of the item. -/
lemma sizeOf_listField_le {data : Entries} {key : String} {items : List Value}
    (h : listField data key = .ok items) : sizeOf items ≤ sizeOf data := by
  have hnil : sizeOf ([] : List Value) ≤ sizeOf data := by
    cases data <;> simp only [List.nil.sizeOf_spec, List.cons.sizeOf_spec] <;> omega
  unfold listField Value.field at h
  cases hlookup : Value.lookup key data with
  | none =>
    simp only [hlookup, Option.getD_none, Except.ok.injEq] at h
    exact h ▸ hnil
  | some v =>
    have hlt := sizeOf_lookup_lt hlookup
    rw [hlookup, Option.getD_some] at h
    cases v <;> simp only [reduceCtorEq, Except.ok.injEq, fail] at h
    · exact h ▸ hnil
    · subst h
      simp only [Value.list.sizeOf_spec] at hlt
      omega

/-- A list of items below an item, with the bound by which the recursion ends. -/
def itemsBelow (data : Entries) (key : String) :
    Result { items : List Value // sizeOf items ≤ sizeOf data } :=
  match h : listField data key with
  | .ok items => .ok ⟨items, sizeOf_listField_le h⟩
  | .error e => .error e

mutual

/-- Reads an item and all items below it. -/
def readNode : Value → Result RenderNode
  | .map data =>
    match Value.lookup "element" data, Value.lookup "conditional" data,
      Value.lookup "loop" data with
    | some tag, none, none => do
      let display ← namesField data "display"
      let calls ← listField data "calls"
      let calls ← calls.mapM readDisplayCall
      let attributes ← listField data "attributes"
      let attributes ← attributes.mapM readAttribute
      let ⟨items, _⟩ ← itemsBelow data "children"
      let children ← readNodes items
      return .element
        { tag := tag.display, display, calls, attributes, position := positionOf data } children
    | none, some expression, none => do
      let listed ← namesField data "variables"
      let references :=
        if listed.isEmpty then Text.referredNames expression.display else listed
      let ⟨trueItems, _⟩ ← itemsBelow data "then"
      let ⟨falseItems, _⟩ ← itemsBelow data "else"
      let whenTrue ← readNodes trueItems
      let whenFalse ← readNodes falseItems
      return .conditional
        { expression := expression.display, references, position := positionOf data }
        whenTrue whenFalse
    | none, none, some collection => do
      let references ← namesField data "variables"
      let item := (Value.field "item" data).scalarText?
      let ⟨items, _⟩ ← itemsBelow data "body"
      let body ← readNodes items
      return .loop
        { collection := collection.display, references, item, position := positionOf data } body
    | _, _, _ => fail .ambiguousRenderNode
  | item => fail (.entryNotAMapping "Render" item.kindName)
termination_by item => sizeOf item

/-- Reads several items, one after the other. -/
def readNodes : List Value → Result (List RenderNode)
  | [] => .ok []
  | item :: rest => do
    let node ← readNode item
    let nodes ← readNodes rest
    return node :: nodes
termination_by items => sizeOf items

end

lemma itemsBelow_bind {α : Type} (data : Entries) (key : String) (f : List Value → Result α) :
    (itemsBelow data key >>= fun below => f below.1) = listField data key >>= f := by
  unfold itemsBelow
  split
  · rename_i items h
    exact (congrArg (· >>= f) h).symm
  · rename_i e h
    exact (congrArg (· >>= f) h).symm

lemma readNodes_eq_ok_iff {items : List Value} {nodes : List RenderNode} :
    readNodes items = .ok nodes ↔
      List.Forall₂ (fun item n => readNode item = .ok n) items nodes := by
  have hmapM : readNodes items = items.mapM readNode := by
    induction items with
    | nil => rw [readNodes]; rfl
    | cons item rest ih => rw [readNodes, ih, List.mapM_cons]
  rw [hmapM, mapM_eq_ok_iff]

/-! ## Closing -/

namespace Shell

@[simp] lemma close_element (e : Element) (children : List RenderNode)
    (stack : List (List RenderNode)) :
    (Shell.element e).close (children :: stack) = (.element e children, stack) := by
  simp [close]

@[simp] lemma close_conditional (c : Condition) (whenTrue whenFalse : List RenderNode)
    (stack : List (List RenderNode)) :
    (Shell.conditional c).close (whenFalse :: whenTrue :: stack) =
      (.conditional c whenTrue whenFalse, stack) := by
  simp [close]

@[simp] lemma close_loop (head : LoopHead) (body : List RenderNode)
    (stack : List (List RenderNode)) :
    (Shell.loop head).close (body :: stack) = (.loop head body, stack) := by
  simp [close]

end Shell

/-- The node that is read as a shell, once the lists below it are read. -/
def complete (read : Shell × List (List Value)) : Result RenderNode := do
  let lists ← read.2.mapM readNodes
  return (read.1.close lists.reverse).1

lemma readShell_map (data : Entries) :
    readShell (.map data) =
      match Value.lookup "element" data, Value.lookup "conditional" data,
        Value.lookup "loop" data with
      | some tag, none, none => readElement data tag
      | none, some expression, none => readConditional data expression
      | none, none, some collection => readLoop data collection
      | _, _, _ => fail .ambiguousRenderNode :=
  rfl

/-- The recursion reads an item on its own and then what is below it. -/
lemma readNode_eq (item : Value) : readNode item = readShell item >>= complete := by
  cases item with
  | map data =>
    rw [readNode, readShell_map]
    cases Value.lookup "element" data <;> cases Value.lookup "conditional" data <;>
      cases Value.lookup "loop" data
    case some.none.none tag =>
      simp [readElement, complete, ← itemsBelow_bind data "children"]
    case none.some.none expression =>
      simp [readConditional, complete, ← itemsBelow_bind data "then",
        ← itemsBelow_bind data "else"]
    case none.none.some collection =>
      simp [readLoop, complete, ← itemsBelow_bind data "body"]
    all_goals rfl
  | _ =>
    simp only [readNode]
    rfl

/-- What an item is read as on its own, and where the lists below it come from. -/
lemma readShell_cases {item : Value} {shell : Shell} {below : List (List Value)}
    (h : readShell item = .ok (shell, below)) : ∃ data, item = .map data ∧
      ((∃ e children, shell = .element e ∧ below = [children] ∧
          listField data "children" = .ok children) ∨
        (∃ c whenTrue whenFalse, shell = .conditional c ∧ below = [whenTrue, whenFalse] ∧
          (Value.lookup "conditional" data).isSome = true ∧
          listField data "then" = .ok whenTrue ∧ listField data "else" = .ok whenFalse) ∨
        ∃ head body, shell = .loop head ∧ below = [body] ∧ listField data "body" = .ok body) := by
  cases item with
  | map data =>
    refine ⟨data, rfl, ?_⟩
    rw [readShell_map] at h
    split at h
    · simp only [readElement, bind_eq_ok_iff, pure_eq_ok_iff, Prod.mk.injEq] at h
      obtain ⟨_, -, _, -, _, -, _, -, _, -, children, hchildren, rfl, rfl⟩ := h
      exact .inl ⟨_, children, rfl, rfl, hchildren⟩
    · rename_i hconditional _
      simp only [readConditional, bind_eq_ok_iff, pure_eq_ok_iff, Prod.mk.injEq] at h
      obtain ⟨_, -, whenTrue, htrue, whenFalse, hfalse, rfl, rfl⟩ := h
      exact .inr (.inl ⟨_, whenTrue, whenFalse, rfl, rfl, by rw [hconditional]; rfl, htrue, hfalse⟩)
    · simp only [readLoop, bind_eq_ok_iff, pure_eq_ok_iff, Prod.mk.injEq] at h
      obtain ⟨_, -, body, hbody, rfl, rfl⟩ := h
      exact .inr (.inr ⟨_, body, rfl, rfl, hbody⟩)
    · cases h
  | _ => cases h

/-- A shell takes as many lists from the stack as there are below the item. -/
lemma close_append {item : Value} {shell : Shell} {below : List (List Value)}
    (h : readShell item = .ok (shell, below)) {lists : List (List RenderNode)}
    (hlength : below.length = lists.length) (stack : List (List RenderNode)) :
    shell.close (lists.reverse ++ stack) = ((shell.close lists.reverse).1, stack) := by
  obtain ⟨data, -, ⟨e, children, rfl, rfl, -⟩ | ⟨c, whenTrue, whenFalse, rfl, rfl, -⟩ |
    ⟨head, body, rfl, rfl, -⟩⟩ := readShell_cases h
  · obtain ⟨nodes, rfl⟩ := List.length_eq_one_iff.mp hlength.symm
    simp
  · obtain ⟨onTrue, onFalse, rfl⟩ := List.length_eq_two.mp hlength.symm
    simp
  · obtain ⟨nodes, rfl⟩ := List.length_eq_one_iff.mp hlength.symm
    simp

/-! ## The work list and the stack -/

/-- The trees of several lists of items, in the same order. -/
abbrev TreesOf : List (List Value) → List (List RenderNode) → Prop :=
  List.Forall₂ fun items nodes => readNodes items = .ok nodes

lemma treesOf_append_iff {xs ys : List (List Value)} {stack : List (List RenderNode)} :
    TreesOf (xs ++ ys) stack ↔ ∃ us vs, TreesOf xs us ∧ TreesOf ys vs ∧ stack = us ++ vs := by
  constructor
  · intro h
    induction xs generalizing stack with
    | nil => exact ⟨[], stack, .nil, h, rfl⟩
    | cons x rest ih =>
      obtain ⟨u, stack', hu, hstack', rfl⟩ := List.forall₂_cons_left_iff.mp h
      obtain ⟨us, vs, hus, hvs, rfl⟩ := ih hstack'
      exact ⟨u :: us, vs, .cons hu hus, hvs, rfl⟩
  · rintro ⟨us, vs, hus, hvs, rfl⟩
    exact List.rel_append hus hvs

variable {pending : List (List Value)} {others : List (List RenderNode)}

/-- An item finds its own lists on top of the stack, and leaves those of the others. -/
lemma close_iff {item : Value} {shell : Shell} {below : List (List Value)} {n : RenderNode}
    (h : readShell item = .ok (shell, below)) :
    (∃ stack, TreesOf (below.reverse ++ pending) stack ∧ shell.close stack = (n, others)) ↔
      readNode item = .ok n ∧ TreesOf pending others := by
  have hnode : readNode item = .ok n ↔
      ∃ lists, TreesOf below lists ∧ (shell.close lists.reverse).1 = n := by
    rw [readNode_eq, bind_eq_ok_iff]
    simp only [h, Except.ok.injEq, exists_eq_left', complete, bind_eq_ok_iff, mapM_eq_ok_iff,
      pure_eq_ok_iff]
  rw [hnode]
  constructor
  · rintro ⟨stack, hstack, hclose⟩
    obtain ⟨us, vs, hus, hvs, rfl⟩ := treesOf_append_iff.mp hstack
    have hlists : TreesOf below us.reverse :=
      List.forall₂_reverse_iff.mp (us.reverse_reverse.symm ▸ hus)
    have hclosed := close_append h hlists.length_eq vs
    rw [List.reverse_reverse, hclose] at hclosed
    obtain ⟨hn, rfl⟩ := Prod.mk.inj hclosed
    exact ⟨⟨us.reverse, hlists, by rw [List.reverse_reverse, hn]⟩, hvs⟩
  · rintro ⟨⟨lists, hlists, rfl⟩, hothers⟩
    exact ⟨lists.reverse ++ others,
      treesOf_append_iff.mpr ⟨_, _, List.rel_reverse hlists, hothers, rfl⟩,
      close_append h hlists.length_eq others⟩

/-- All items of a list find their own lists on top of the stack, the last item first. -/
lemma closeAll_iff {items : List Value} {read : List (Shell × List (List Value))}
    {nodes : List RenderNode} (h : List.Forall₂ (fun item s => readShell item = .ok s) items read) :
    (∃ stack, TreesOf ((read.flatMap Prod.snd).reverse ++ pending) stack ∧
        closeAll (read.map Prod.fst) stack = (nodes, others)) ↔
      readNodes items = .ok nodes ∧ TreesOf pending others := by
  rw [readNodes_eq_ok_iff]
  induction h generalizing nodes pending others with
  | nil =>
    simp only [List.flatMap_nil, List.reverse_nil, List.nil_append, List.map_nil, closeAll,
      Prod.mk.injEq, List.forall₂_nil_left_iff]
    constructor
    · rintro ⟨stack, hstack, rfl, rfl⟩
      exact ⟨rfl, hstack⟩
    · rintro ⟨rfl, hothers⟩
      exact ⟨others, hothers, rfl, rfl⟩
  | @cons item s items read hitem _ ih =>
    have hpending : ((s :: read).flatMap Prod.snd).reverse ++ pending =
        (read.flatMap Prod.snd).reverse ++ (s.2.reverse ++ pending) := by
      rw [List.flatMap_cons, List.reverse_append, List.append_assoc]
    rw [hpending]
    constructor
    · rintro ⟨stack, hstack, hclose⟩
      rw [List.map_cons, closeAll] at hclose
      obtain ⟨hn, rfl⟩ := Prod.mk.inj hclose
      obtain ⟨hnodes, hrest⟩ := ih.mp ⟨stack, hstack, rfl⟩
      obtain ⟨hnode, hothers⟩ := (close_iff hitem).mp ⟨_, hrest, rfl⟩
      exact ⟨hn ▸ .cons hnode hnodes, hothers⟩
    · rintro ⟨hall, hothers⟩
      obtain ⟨n, nodes', hnode, hnodes, rfl⟩ := List.forall₂_cons_left_iff.mp hall
      obtain ⟨rest, hrest, hclose⟩ := (close_iff hitem).mpr ⟨hnode, hothers⟩
      obtain ⟨stack, hstack, hcloseAll⟩ := ih.mpr ⟨hnodes, hrest⟩
      refine ⟨stack, hstack, ?_⟩
      rw [List.map_cons, closeAll, hcloseAll]
      dsimp only
      rw [hclose]

/-! ## The length of the work list -/

/-- The number of values under a key. -/
def weightAt (data : Entries) (key : String) : Nat :=
  ((Value.lookup key data).map weight).getD 0

/-- Values under different keys are counted once each. -/
lemma sum_weightAt_le {keys : List String} (hkeys : keys.Nodup) (data : Entries) :
    (keys.map (weightAt data)).sum ≤ entriesWeight data := by
  induction data generalizing keys with
  | nil =>
    have hzero : weightAt [] = fun _ => 0 := rfl
    simp [hzero]
  | cons entry rest ih =>
    obtain ⟨k, v⟩ := entry
    rw [entriesWeight, entryWeight]
    by_cases hk : ∃ s ∈ keys, k = .str s
    · obtain ⟨s, hs, rfl⟩ := hk
      have hhead : weightAt ((.str s, v) :: rest) s = weight v := by simp [weightAt, Value.lookup]
      have htail : (keys.erase s).map (weightAt ((.str s, v) :: rest)) =
          (keys.erase s).map (weightAt rest) := by
        refine List.map_congr_left fun key hkey => ?_
        have hne : s ≠ key := fun h => hkeys.not_mem_erase (h ▸ hkey)
        simp [weightAt, Value.lookup, hne]
      rw [← List.sum_map_erase _ hs, hhead, htail]
      exact Nat.add_le_add_left (ih (hkeys.erase s)) _
    · have hrest : keys.map (weightAt ((k, v) :: rest)) = keys.map (weightAt rest) := by
        refine List.map_congr_left fun key hkey => ?_
        have hne : k ≠ .str key := fun h => hk ⟨key, hkey, h⟩
        cases k <;> simp_all [weightAt, Value.lookup]
      rw [hrest]
      exact Nat.le_trans (ih hkeys) (Nat.le_add_left _ _)

lemma one_le_weight (v : Value) : 1 ≤ weight v := by
  cases v <;> simp [weight]

lemma weights_listField_le {data : Entries} {key : String} {items : List Value}
    (h : listField data key = .ok items) : weights items ≤ weightAt data key := by
  unfold listField Value.field at h
  unfold weightAt
  cases hlookup : Value.lookup key data with
  | none =>
    simp only [hlookup, Option.getD_none, Except.ok.injEq] at h
    simp [← h, weights]
  | some v =>
    rw [hlookup, Option.getD_some] at h
    cases v <;> simp only [reduceCtorEq, Except.ok.injEq, fail] at h
    · simp [← h, weights]
    · simp [← h, weight]

/-- A bound on the number of lists that are ever taken from a work list. -/
def cost (pending : List (List Value)) : Nat :=
  (pending.map fun items => weights items + 1).sum

lemma cost_append (xs ys : List (List Value)) : cost (xs ++ ys) = cost xs + cost ys := by
  simp [cost]

lemma cost_reverse (xs : List (List Value)) : cost xs.reverse = cost xs := by
  simp [cost, List.sum_reverse]

/-- The lists below an item cost no more than the item. -/
lemma cost_readShell_le {item : Value} {shell : Shell} {below : List (List Value)}
    (h : readShell item = .ok (shell, below)) : cost below ≤ weight item := by
  obtain ⟨data, rfl, ⟨e, children, -, rfl, hchildren⟩ |
    ⟨c, whenTrue, whenFalse, -, rfl, hconditional, htrue, hfalse⟩ | ⟨head, body, -, rfl, hbody⟩⟩ :=
    readShell_cases h
  · have hle := sum_weightAt_le (by decide : ["children"].Nodup) data
    have hitems := weights_listField_le hchildren
    simp only [List.map_cons, List.map_nil, List.sum_cons, List.sum_nil, cost, weight] at hle ⊢
    omega
  · -- two empty branches may be missing; the expression of the conditional makes up for one of them
    obtain ⟨raw, hraw⟩ := Option.isSome_iff_exists.mp hconditional
    have hle := sum_weightAt_le (by decide : ["conditional", "then", "else"].Nodup) data
    have hexpression : 1 ≤ weightAt data "conditional" := by
      simpa [weightAt, hraw] using one_le_weight raw
    have honTrue := weights_listField_le htrue
    have honFalse := weights_listField_le hfalse
    simp only [List.map_cons, List.map_nil, List.sum_cons, List.sum_nil, cost, weight] at hle ⊢
    omega
  · have hle := sum_weightAt_le (by decide : ["body"].Nodup) data
    have hitems := weights_listField_le hbody
    simp only [List.map_cons, List.map_nil, List.sum_cons, List.sum_nil, cost, weight] at hle ⊢
    omega

lemma cost_flatMap_le {items : List Value} {read : List (Shell × List (List Value))}
    (h : List.Forall₂ (fun item s => readShell item = .ok s) items read) :
    cost (read.flatMap Prod.snd) ≤ weights items := by
  induction h with
  | nil => simp [cost, weights]
  | cons hitem _ ih =>
    have hfirst := cost_readShell_le hitem
    rw [List.flatMap_cons, cost_append, weights]
    omega

/-! ## Agreement -/

/-- Items that the recursion reads can be read on their own. -/
lemma exists_readShells {items : List Value} {nodes : List RenderNode}
    (h : List.Forall₂ (fun item n => readNode item = .ok n) items nodes) :
    ∃ read, List.Forall₂ (fun item s => readShell item = .ok s) items read := by
  induction h with
  | nil => exact ⟨[], .nil⟩
  | cons hnode _ ih =>
    rw [readNode_eq, bind_eq_ok_iff] at hnode
    obtain ⟨s, hs, -⟩ := hnode
    obtain ⟨read, hread⟩ := ih
    exact ⟨s :: read, .cons hs hread⟩

/-- The stack that is rebuilt from a work list holds the trees of its lists, in the same order. -/
lemma readLists_iff {fuel : Nat} {pending : List (List Value)} {trees : List (List RenderNode)}
    (hfuel : cost pending ≤ fuel) :
    (∃ lists, readLists fuel pending = .ok lists ∧ rebuild lists = trees) ↔
      TreesOf pending trees := by
  induction fuel generalizing pending trees with
  | zero =>
    have hnil : pending = [] := by
      cases pending with
      | nil => rfl
      | cons items rest => simp [cost] at hfuel
    subst hnil
    simp [readLists, rebuild, eq_comm]
  | succ fuel ih =>
    cases pending with
    | nil => simp [readLists, rebuild, eq_comm]
    | cons items pending =>
      simp only [readLists, bind_eq_ok_iff, mapM_eq_ok_iff, pure_eq_ok_iff]
      have hgo : ∀ {read}, List.Forall₂ (fun item s => readShell item = .ok s) items read →
          cost ((read.flatMap Prod.snd).reverse ++ pending) ≤ fuel := by
        intro read hread
        have hbelow := cost_flatMap_le hread
        simp only [cost, List.map_cons, List.sum_cons] at hfuel
        rw [cost_append, cost_reverse]
        simp only [cost] at hbelow ⊢
        omega
      constructor
      · rintro ⟨lists, ⟨read, hread, rest, hrest, rfl⟩, rfl⟩
        have hstack := (ih (hgo hread)).mp ⟨rest, hrest, rfl⟩
        obtain ⟨hnodes, hothers⟩ := (closeAll_iff hread).mp ⟨_, hstack, rfl⟩
        exact .cons hnodes hothers
      · intro htrees
        obtain ⟨nodes, others, hnodes, hothers, rfl⟩ := List.forall₂_cons_left_iff.mp htrees
        obtain ⟨read, hread⟩ := exists_readShells (readNodes_eq_ok_iff.mp hnodes)
        obtain ⟨stack, hstack, hclose⟩ := (closeAll_iff hread).mpr ⟨hnodes, hothers⟩
        obtain ⟨rest, hrest, rfl⟩ := (ih (hgo hread)).mpr hstack
        refine ⟨_, ⟨read, hread, rest, hrest, rfl⟩, ?_⟩
        rw [rebuild, hclose]

/-- **Reading markup is a recursion.** Whatever the items, the work list reads them as a tree
exactly if the recursion over the nested items does, and it is the same tree. -/
theorem readOutput_eq_ok_iff (items : List Value) (tree : List RenderNode) :
    readOutput items = .ok tree ↔ readNodes items = .ok tree := by
  have hlists : ∀ trees, (∃ lists, readLists (weights items + 1) [items] = .ok lists ∧
      rebuild lists = trees) ↔ TreesOf [items] trees :=
    fun trees => readLists_iff (by simp [cost])
  unfold readOutput
  constructor
  · intro h
    cases hread : readLists (weights items + 1) [items] with
    | error e => rw [hread] at h; cases h
    | ok lists =>
      rw [hread] at h
      obtain rfl := Except.ok.inj h
      obtain ⟨nodes, rest, hnodes, hrest, htrees⟩ :=
        List.forall₂_cons_left_iff.mp ((hlists _).mp ⟨lists, hread, rfl⟩)
      simp only [htrees]
      exact hnodes
  · intro h
    obtain ⟨lists, hread, hrebuild⟩ := (hlists [tree]).mpr (.cons h .nil)
    rw [hread, Except.map, hrebuild]
    rfl

end ComponentFlow.Reader
