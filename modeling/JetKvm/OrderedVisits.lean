import Mathlib.Data.List.Nodup
import Mathlib.Data.List.Sort
import Mathlib.Logic.Function.Basic

/-!
# Visits in any order

The items of a map are visited in an order that nobody promises, up to the
first visit that does not end well.  A visit works on the cell of its item, and
may itself choose.  An order is given by ranks of the keys, and every order is
given by some.

What can come of the visits in some order is told by what can come of single
ones.
-/

namespace JetKvm

/-- How a check ends: with a value, an error, or a panic -/
inductive Checked (Value : Type*) where
  | ok (value : Value)
  | error (message : String)
  | panic
  deriving DecidableEq, Repr

namespace OrderedVisits

variable {Item Key Cell Choice Result : Type*} [DecidableEq Key]
variable {key : Item → Key} {items : List Item}

/-! ### Lists of values -/

section Lists

omit [DecidableEq Key]

variable {Error Out : Type*}

theorem mapM_eq_ok_iff {check : Item → Except Error Result}
    {items : List Item} {results : List Result} :
    items.mapM check = .ok results ↔
      List.Forall₂ (fun item result => check item = .ok result) items results := by
  induction items generalizing results with
  | nil =>
      rw [List.mapM_nil, List.forall₂_nil_left_iff]
      exact ⟨fun same => by cases same; rfl, fun same => by rw [same]; rfl⟩
  | cons item items ih =>
      rw [List.mapM_cons, List.forall₂_cons_left_iff]
      simp only [← ih]
      cases check item with
      | error message => simp [bind, Except.bind]
      | ok first =>
          cases items.mapM check with
          | error message => simp [bind, Except.bind]
          | ok rest => simp [bind, Except.bind, pure, Except.pure, eq_comm]

theorem exists_of_forall₂ {Related : Item → Result → Prop}
    {items : List Item} {results : List Result} {result : Result}
    (related : List.Forall₂ Related items results) (member : result ∈ results) :
    ∃ item ∈ items, Related item result := by
  induction related with
  | nil => cases member
  | cons first rest ih =>
      rcases List.mem_cons.mp member with rfl | inside
      · exact ⟨_, List.mem_cons_self, first⟩
      · obtain ⟨item, itemMember, isRelated⟩ := ih inside
        exact ⟨item, List.mem_cons_of_mem _ itemMember, isRelated⟩

theorem exists_mapM_eq_ok {convert : Item → Except Error Out}
    {Good : Item → Out → Prop} {items : List Item}
    (each : ∀ item ∈ items, ∃ out, convert item = .ok out ∧ Good item out) :
    ∃ outs, items.mapM convert = .ok outs ∧ List.Forall₂ Good items outs := by
  induction items with
  | nil => exact ⟨[], rfl, .nil⟩
  | cons item items ih =>
      rw [List.forall_mem_cons] at each
      obtain ⟨⟨out, converted, good⟩, rest⟩ := each
      obtain ⟨outs, all, goods⟩ := ih rest
      refine ⟨out :: outs, ?_, .cons good goods⟩
      rw [List.mapM_cons, converted]
      simp only [bind, Except.bind, all, pure, Except.pure]

theorem forall₂_compose {First : Item → Result → Prop}
    {Second : Result → Out → Prop} {items : List Item} {results : List Result}
    {outs : List Out} (first : List.Forall₂ First items results)
    (second : List.Forall₂ Second results outs) :
    List.Forall₂ (fun item out => ∃ result, First item result ∧
      Second result out) items outs := by
  induction first generalizing outs with
  | nil =>
      cases second
      exact .nil
  | cons here _ ih =>
      cases second with
      | cons there rest => exact .cons ⟨_, here, there⟩ (ih rest)

/-- What is said of pairs is said of the items alone. -/
theorem forall₂_iff_forall_mem {Related Property : Item → Out → Prop}
    {Alone : Item → Prop} {items : List Item} {outs : List Out}
    (related : List.Forall₂ Related items outs)
    (each : ∀ item out, Related item out → (Property item out ↔ Alone item)) :
    List.Forall₂ Property items outs ↔ ∀ item ∈ items, Alone item := by
  induction related with
  | nil => exact ⟨fun _ => List.forall_mem_nil _, fun _ => .nil⟩
  | cons here _ ih =>
      rw [List.forall₂_cons, List.forall_mem_cons, each _ _ here, ih]

end Lists

/-! ### Orders -/

section Orders

omit [DecidableEq Key]

def inOrder (key : Item → Key) (rank : Key → Nat) (items : List Item) :
    List Item :=
  items.mergeSort fun first second => rank (key first) ≤ rank (key second)

theorem inOrder_perm (rank : Key → Nat) (items : List Item) :
    (inOrder key rank items).Perm items :=
  List.mergeSort_perm items _

theorem mem_inOrder {rank : Key → Nat} {item : Item} :
    item ∈ inOrder key rank items ↔ item ∈ items :=
  (inOrder_perm rank items).mem_iff

theorem pairwise_inOrder (rank : Key → Nat) (items : List Item) :
    (inOrder key rank items).Pairwise fun first second =>
      rank (key first) ≤ rank (key second) := by
  have sorted := @List.pairwise_mergeSort Item
    (fun first second => rank (key first) ≤ rank (key second))
    (fun first second third before after => by
      simp only [decide_eq_true_eq] at before after ⊢
      exact before.trans after)
    (fun first second => by
      simp only [Bool.or_eq_true, decide_eq_true_eq]
      exact Nat.le_total _ _) items
  exact sorted.imp fun ordered => by simpa using ordered

theorem distinct_inOrder (rank : Key → Nat) (distinct : (items.map key).Nodup) :
    ((inOrder key rank items).map key).Nodup :=
  ((inOrder_perm rank items).map key).nodup_iff.mpr distinct

end Orders

/-- Every order of items with distinct keys is given by ranks. -/
theorem exists_inOrder_eq {target : List Item} (distinct : (items.map key).Nodup)
    (perm : target.Perm items) : ∃ rank, inOrder key rank items = target := by
  let rank := fun wanted => (target.map key).idxOf wanted
  have distinctTarget : (target.map key).Nodup :=
    (perm.map key).nodup_iff.mpr distinct
  have increasing : target.Pairwise fun first second =>
      rank (key first) < rank (key second) := by
    apply List.pairwise_iff_getElem.mpr
    intro first second firstBound secondBound before
    have atFirst := distinctTarget.idxOf_getElem first
      (by rw [List.length_map]; exact firstBound)
    have atSecond := distinctTarget.idxOf_getElem second
      (by rw [List.length_map]; exact secondBound)
    rw [List.getElem_map] at atFirst atSecond
    change (target.map key).idxOf _ < (target.map key).idxOf _
    omega
  refine ⟨rank, List.Perm.eq_of_pairwise ?_ (pairwise_inOrder rank items)
    (increasing.imp Nat.le_of_lt) ((inOrder_perm rank items).trans perm.symm)⟩
  intro first second firstMember secondMember before after
  have firstMember := perm.mem_iff.mpr (mem_inOrder.mp firstMember)
  have same : rank (key first) = rank (key second) := by omega
  have sameKey : key first = key second :=
    (List.idxOf_inj (List.mem_map_of_mem firstMember)).mp same
  exact List.inj_on_of_nodup_map distinctTarget firstMember secondMember sameKey

/-- Any item may come first. -/
theorem exists_inOrder_cons {item : Item} (distinct : (items.map key).Nodup)
    (member : item ∈ items) :
    ∃ rank rest, inOrder key rank items = item :: rest := by
  obtain ⟨before, after, rfl⟩ := List.append_of_mem member
  obtain ⟨rank, ordered⟩ := exists_inOrder_eq distinct
    (List.perm_middle.symm : (item :: (before ++ after)).Perm _)
  exact ⟨rank, before ++ after, ordered⟩

/-- Any two items may come first. -/
theorem exists_inOrder_cons_cons {first second : Item}
    (distinct : (items.map key).Nodup) (firstMember : first ∈ items)
    (secondMember : second ∈ items) (apart : first ≠ second) :
    ∃ rank rest, inOrder key rank items = first :: second :: rest := by
  obtain ⟨before, after, rfl⟩ := List.append_of_mem firstMember
  have inRest : second ∈ before ++ after := by
    have inside := List.perm_middle.mem_iff.mp secondMember
    exact (List.mem_cons.mp inside).resolve_left apart.symm
  obtain ⟨earlier, later, split⟩ := List.append_of_mem inRest
  have perm : (first :: second :: (earlier ++ later)).Perm
      (before ++ first :: after) := by
    refine List.Perm.trans ?_ List.perm_middle.symm
    rw [split]
    exact List.Perm.cons first List.perm_middle.symm
  obtain ⟨rank, ordered⟩ := exists_inOrder_eq distinct perm
  exact ⟨rank, earlier ++ later, ordered⟩

/-- Any two items may come first in either order, before the same others. -/
theorem exists_inOrder_swap {first second : Item}
    (distinct : (items.map key).Nodup) (firstMember : first ∈ items)
    (secondMember : second ∈ items) (apart : first ≠ second) :
    ∃ rank swapped rest, inOrder key rank items = first :: second :: rest ∧
      inOrder key swapped items = second :: first :: rest := by
  obtain ⟨rank, rest, ordered⟩ :=
    exists_inOrder_cons_cons distinct firstMember secondMember apart
  have perm := ordered ▸ @inOrder_perm _ _ key rank items
  obtain ⟨swapped, turned⟩ :=
    exists_inOrder_eq distinct ((List.Perm.swap first second rest).trans perm)
  exact ⟨rank, swapped, rest, ordered, turned⟩

/-- What a search for the first item of a kind may find -/
theorem exists_findSome_iff {classify : Item → Option Result} {result : Result}
    (distinct : (items.map key).Nodup) :
    (∃ rank, (inOrder key rank items).findSome? classify = some result) ↔
      ∃ item ∈ items, classify item = some result := by
  constructor
  · rintro ⟨rank, found⟩
    obtain ⟨item, member, isResult⟩ := List.exists_of_findSome?_eq_some found
    exact ⟨item, mem_inOrder.mp member, isResult⟩
  · rintro ⟨item, member, isResult⟩
    obtain ⟨rank, rest, ordered⟩ := exists_inOrder_cons distinct member
    refine ⟨rank, ?_⟩
    rw [ordered, List.findSome?_cons, isResult]

omit [DecidableEq Key] in
theorem findSome_eq_none_iff {classify : Item → Option Result}
    (rank : Key → Nat) :
    (inOrder key rank items).findSome? classify = none ↔
      ∀ item ∈ items, classify item = none := by
  rw [List.findSome?_eq_none_iff]
  exact forall_congr' fun item => by rw [mem_inOrder]

/-- The item that is found under its key -/
theorem find?_key {item : Item} (distinct : (items.map key).Nodup)
    (member : item ∈ items) :
    items.find? (fun other => key other = key item) = some item := by
  induction items with
  | nil => cases member
  | cons first items ih =>
      rw [List.map_cons, List.nodup_cons] at distinct
      rw [List.find?_cons]
      rcases List.mem_cons.mp member with rfl | inside
      · simp
      · have apart : key first ≠ key item := fun same =>
          distinct.1 (same ▸ List.mem_map_of_mem inside)
        simp only [apart, decide_false]
        exact ih distinct.2 inside

/-! ### Visits up to the first that does not end well -/

section Visits

variable {visit : Item → Cell × Checked Unit} {cells : Key → Cell}

def visitAll (key : Item → Key) (visit : Item → Cell × Checked Unit) :
    List Item → (Key → Cell) → (Key → Cell) × Checked Unit
  | [], cells => (cells, .ok ())
  | item :: items, cells =>
      let left := Function.update cells (key item) (visit item).1
      match (visit item).2 with
      | .ok () => visitAll key visit items left
      | result => (left, result)

theorem visitAll_cons_of_ok {item : Item} (ok : (visit item).2 = .ok ()) :
    visitAll key visit (item :: items) cells =
      visitAll key visit items
        (Function.update cells (key item) (visit item).1) := by
  rw [visitAll, ok]

theorem visitAll_cons_of_not_ok {item : Item} (stops : (visit item).2 ≠ .ok ()) :
    visitAll key visit (item :: items) cells =
      (Function.update cells (key item) (visit item).1, (visit item).2) := by
  rw [visitAll]
  cases result : (visit item).2 with
  | ok value => exact absurd result stops
  | error message => rfl
  | panic => rfl

theorem visitAll_ok_iff :
    (visitAll key visit items cells).2 = .ok () ↔
      ∀ item ∈ items, (visit item).2 = .ok () := by
  induction items generalizing cells with
  | nil => simp [visitAll]
  | cons item items ih =>
      by_cases ok : (visit item).2 = .ok ()
      · rw [visitAll_cons_of_ok ok, ih]
        simp [ok]
      · rw [visitAll_cons_of_not_ok ok]
        simp [ok]

/-- A cell whose item was not visited is left alone. -/
theorem visitAll_of_not_mem {other : Key} (apart : other ∉ items.map key) :
    (visitAll key visit items cells).1 other = cells other := by
  induction items generalizing cells with
  | nil => rfl
  | cons item items ih =>
      simp only [List.map_cons, List.mem_cons, not_or] at apart
      have kept : Function.update cells (key item) (visit item).1 other =
          cells other := Function.update_of_ne apart.1 _ _
      by_cases ok : (visit item).2 = .ok ()
      · rw [visitAll_cons_of_ok ok, ih apart.2, kept]
      · rw [visitAll_cons_of_not_ok ok]
        exact kept

/-- Where every visit ends well, each leaves its cell. -/
theorem visitAll_of_mem {item : Item} (distinct : (items.map key).Nodup)
    (allOk : ∀ item ∈ items, (visit item).2 = .ok ()) (member : item ∈ items) :
    (visitAll key visit items cells).1 (key item) = (visit item).1 := by
  induction items generalizing cells with
  | nil => cases member
  | cons first items ih =>
      rw [List.map_cons, List.nodup_cons] at distinct
      rw [visitAll_cons_of_ok (allOk first List.mem_cons_self)]
      rcases List.mem_cons.mp member with rfl | inside
      · rw [visitAll_of_not_mem distinct.1, Function.update_self]
      · exact ih distinct.2
          (fun other inside => allOk other (List.mem_cons_of_mem first inside))
          inside

/-- A visit that does not end well ends them all, after visits that did. -/
theorem exists_of_visitAll {result : Checked Unit} (stops : result ≠ .ok ())
    (ended : (visitAll key visit items cells).2 = result) :
    ∃ before item after, items = before ++ item :: after ∧
      (∀ other ∈ before, (visit other).2 = .ok ()) ∧ (visit item).2 = result ∧
      (visitAll key visit items cells).1 =
        Function.update (visitAll key visit before cells).1 (key item)
          (visit item).1 := by
  induction items generalizing cells with
  | nil => exact absurd ended.symm stops
  | cons first items ih =>
      by_cases ok : (visit first).2 = .ok ()
      · rw [visitAll_cons_of_ok ok] at ended ⊢
        obtain ⟨before, item, after, rfl, allOk, isResult, left⟩ := ih ended
        refine ⟨first :: before, item, after, rfl,
          List.forall_mem_cons.mpr ⟨ok, allOk⟩, isResult, ?_⟩
        rw [left, visitAll_cons_of_ok ok]
      · rw [visitAll_cons_of_not_ok ok] at ended ⊢
        exact ⟨[], first, items, rfl, nofun, ended, rfl⟩

end Visits

/-! ### Visits that choose -/

section Choices

variable {visit : Choice → Item → Cell × Checked Unit} {cells : Key → Cell}
variable {result : Checked Unit}

/-- An order of the items, and what each visit chooses -/
abbrev Plan (Key Choice : Type*) := (Key → Nat) × (Key → Choice)

def visitInOrder (key : Item → Key)
    (visit : Choice → Item → Cell × Checked Unit) (plan : Plan Key Choice)
    (items : List Item) (cells : Key → Cell) : (Key → Cell) × Checked Unit :=
  visitAll key (fun item => visit (plan.2 (key item)) item)
    (inOrder key plan.1 items) cells

/-- What items with distinct keys choose, they choose by their keys. -/
theorem exists_choice [Nonempty Choice] (distinct : (items.map key).Nodup)
    (choose : Item → Choice) :
    ∃ byKey : Key → Choice, ∀ item ∈ items, byKey (key item) = choose item := by
  classical
  obtain ⟨fallback⟩ := ‹Nonempty Choice›
  refine ⟨fun wanted =>
    if found : ∃ item ∈ items, key item = wanted then choose found.choose
    else fallback, ?_⟩
  intro item member
  have found : ∃ other ∈ items, key other = key item := ⟨item, member, rfl⟩
  have same : found.choose = item :=
    List.inj_on_of_nodup_map distinct found.choose_spec.1 member
      found.choose_spec.2
  simp only [dif_pos found, same]

/-- All visits may end well exactly if each may. -/
theorem exists_ok_iff [Nonempty Choice] (distinct : (items.map key).Nodup) :
    (∃ plan, (visitInOrder key visit plan items cells).2 = .ok ()) ↔
      ∀ item ∈ items, ∃ choice, (visit choice item).2 = .ok () := by
  constructor
  · rintro ⟨plan, ended⟩ item member
    exact ⟨_, visitAll_ok_iff.mp ended item (mem_inOrder.mpr member)⟩
  · intro each
    classical
    have chosen : ∃ choose : Item → Choice, ∀ item ∈ items,
        (visit (choose item) item).2 = .ok () := by
      refine ⟨fun item =>
        if found : ∃ choice, (visit choice item).2 = .ok () then found.choose
        else Classical.arbitrary Choice, ?_⟩
      intro item member
      have found := each item member
      simp only [dif_pos found]
      exact found.choose_spec
    obtain ⟨choose, allOk⟩ := chosen
    obtain ⟨byKey, agrees⟩ := exists_choice distinct choose
    refine ⟨⟨fun _ => 0, byKey⟩, visitAll_ok_iff.mpr ?_⟩
    intro item member
    have member := mem_inOrder.mp member
    change (visit (byKey (key item)) item).2 = .ok ()
    rw [agrees item member]
    exact allOk item member

/-- The visits may end otherwise exactly if one of them may. -/
theorem exists_result_iff (distinct : (items.map key).Nodup)
    (stops : result ≠ .ok ()) :
    (∃ plan, (visitInOrder key visit plan items cells).2 = result) ↔
      ∃ item ∈ items, ∃ choice, (visit choice item).2 = result := by
  constructor
  · rintro ⟨plan, ended⟩
    obtain ⟨before, item, after, split, -, isResult, -⟩ :=
      exists_of_visitAll stops ended
    have member : item ∈ inOrder key plan.1 items := by
      rw [split]
      exact List.mem_append_cons_self
    exact ⟨item, mem_inOrder.mp member, _, isResult⟩
  · rintro ⟨item, member, choice, isResult⟩
    obtain ⟨rank, rest, ordered⟩ := exists_inOrder_cons distinct member
    refine ⟨⟨rank, fun _ => choice⟩, ?_⟩
    simp only [visitInOrder]
    rw [ordered, visitAll_cons_of_not_ok (isResult ▸ stops)]
    exact isResult

/-- They may have changed something by then exactly if the one that ends them
may, or one that comes before it. -/
theorem exists_changed_iff [Nonempty Choice] (distinct : (items.map key).Nodup)
    (stops : result ≠ .ok ()) :
    (∃ plan, (visitInOrder key visit plan items cells).2 = result ∧
        (visitInOrder key visit plan items cells).1 ≠ cells) ↔
      (∃ item ∈ items, ∃ choice, (visit choice item).2 = result ∧
          (visit choice item).1 ≠ cells (key item)) ∨
        ∃ first ∈ items, ∃ second ∈ items, first ≠ second ∧
          (∃ choice, (visit choice first).2 = .ok () ∧
            (visit choice first).1 ≠ cells (key first)) ∧
          ∃ choice, (visit choice second).2 = result := by
  constructor
  · rintro ⟨plan, ended, changed⟩
    obtain ⟨before, item, after, split, allOk, isResult, left⟩ :=
      exists_of_visitAll stops ended
    have distinctOrder := distinct_inOrder plan.1 distinct
    rw [split, List.map_append, List.map_cons] at distinctOrder
    have inItems : ∀ other ∈ before ++ item :: after, other ∈ items := by
      intro other inside
      rw [← split] at inside
      exact mem_inOrder.mp inside
    have member := inItems item List.mem_append_cons_self
    by_cases own : (visit (plan.2 (key item)) item).1 = cells (key item)
    · right
      have moved : ∃ first ∈ before,
          (visit (plan.2 (key first)) first).1 ≠ cells (key first) := by
        by_contra none
        push Not at none
        apply changed
        funext wanted
        change (visitAll key _ _ cells).1 wanted = cells wanted
        rw [left]
        by_cases same : wanted = key item
        · rw [same, Function.update_self, own]
        · rw [Function.update_of_ne same]
          by_cases visited : wanted ∈ before.map key
          · obtain ⟨first, inside, rfl⟩ := List.mem_map.mp visited
            rw [visitAll_of_mem (List.nodup_append.mp distinctOrder).1 allOk
              inside]
            exact none first inside
          · exact visitAll_of_not_mem visited
      obtain ⟨first, inside, moved⟩ := moved
      have apart : first ≠ item := by
        rintro rfl
        have disjoint := (List.nodup_append.mp distinctOrder).2.2
        exact disjoint _ (List.mem_map_of_mem inside) _ List.mem_cons_self rfl
      exact ⟨first, inItems first (List.mem_append_left _ inside), item, member,
        apart, ⟨_, allOk first inside, moved⟩, _, isResult⟩
    · exact .inl ⟨item, member, _, isResult, own⟩
  · rintro (⟨item, member, choice, isResult, moved⟩ |
      ⟨first, firstMember, second, secondMember, apart, ⟨choice, ok, moved⟩,
        other, isResult⟩)
    · obtain ⟨rank, rest, ordered⟩ := exists_inOrder_cons distinct member
      refine ⟨⟨rank, fun _ => choice⟩, ?_⟩
      simp only [visitInOrder]
      rw [ordered, visitAll_cons_of_not_ok (isResult ▸ stops)]
      refine ⟨isResult, fun same => moved ?_⟩
      have left := congrFun same (key item)
      simp only [Function.update_self] at left
      exact left
    · obtain ⟨rank, rest, ordered⟩ :=
        exists_inOrder_cons_cons distinct firstMember secondMember apart
      have apartKeys : key first ≠ key second := fun same =>
        apart (List.inj_on_of_nodup_map distinct firstMember secondMember same)
      obtain ⟨byKey, atFirst, atSecond⟩ : ∃ byKey : Key → Choice,
          byKey (key first) = choice ∧ byKey (key second) = other :=
        ⟨Function.update (fun _ => other) (key first) choice,
          Function.update_self _ _ _, Function.update_of_ne apartKeys.symm _ _⟩
      obtain ⟨visits, isVisits⟩ : ∃ visits : Item → Cell × Checked Unit,
          visits = fun item => visit (byKey (key item)) item := ⟨_, rfl⟩
      have isFirst : visits first = visit choice first := by
        simp only [isVisits, atFirst]
      have isSecond : visits second = visit other second := by
        simp only [isVisits, atSecond]
      rw [← isFirst] at ok moved
      rw [← isSecond] at isResult
      refine ⟨⟨rank, byKey⟩, ?_⟩
      simp only [visitInOrder]
      rw [← isVisits, ordered, visitAll_cons_of_ok ok,
        visitAll_cons_of_not_ok (isResult ▸ stops)]
      refine ⟨isResult, fun same => moved ?_⟩
      have left := congrFun same (key first)
      simp only [Function.update_of_ne apartKeys, Function.update_self] at left
      exact left

/-- What the visits leave when all have ended well -/
theorem visitInOrder_of_mem {plan : Plan Key Choice} {item : Item}
    (distinct : (items.map key).Nodup)
    (ok : (visitInOrder key visit plan items cells).2 = .ok ())
    (member : item ∈ items) :
    (visitInOrder key visit plan items cells).1 (key item) =
      (visit (plan.2 (key item)) item).1 :=
  visitAll_of_mem (distinct_inOrder plan.1 distinct)
    (visitAll_ok_iff.mp ok) (mem_inOrder.mpr member)

theorem visitInOrder_of_not_mem {plan : Plan Key Choice} {other : Key}
    (apart : other ∉ items.map key) :
    (visitInOrder key visit plan items cells).1 other = cells other := by
  apply visitAll_of_not_mem
  rw [((inOrder_perm plan.1 items).map key).mem_iff]
  exact apart

end Choices

end OrderedVisits

end JetKvm
