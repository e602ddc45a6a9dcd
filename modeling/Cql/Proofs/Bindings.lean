import Mathlib.Data.List.DropRight
import Mathlib.Data.List.Induction
import Cql.Query.Bindings

/-!
Runs of pushes and clears. The buckets hold what was pushed since the last clear, so the values of
all buckets are that record sorted by bucket, where the values of one bucket keep the order in which
they came. Main statement: this, and that the arguments of an update are the same values with the
assigned ones among them.
-/

namespace Cql

/-- The place of a bucket in the order of the buckets. -/
def Bucket.rank : Bucket → Nat
  | select => 0
  | predicate => 1
  | updateCollection => 2
  | join => 3

namespace Bindings

inductive Step where
  | push (kind : Bucket) (v : Value)
  | clear

namespace Step

def apply (b : Bindings) : Step → Bindings
  | push kind v => b.push kind v
  | clear => b.clear

/-- Takes the steps one after another, from empty buckets. -/
def applyAll (steps : List Step) : Bindings :=
  steps.foldl apply ∅

def entry? : Step → Option (Bucket × Value)
  | push kind v => some (kind, v)
  | clear => none

/-- What was pushed since the last clear, in that order. -/
def pushed (steps : List Step) : List (Bucket × Value) :=
  (steps.rtakeWhile fun step => step.entry?.isSome).filterMap entry?

end Step

/-- The values of one bucket among entries. -/
def valuesOf (kind : Bucket) (entries : List (Bucket × Value)) : List Value :=
  (entries.filter fun e => e.1 = kind).map Prod.snd

def inOrder (e e' : Bucket × Value) : Bool :=
  decide (e.1.rank ≤ e'.1.rank)

/-- Entries in the order of their buckets. -/
def sortedByBucket (entries : List (Bucket × Value)) : List (Bucket × Value) :=
  entries.mergeSort inOrder

section Sorting

variable {entries : List (Bucket × Value)}

theorem inOrder_trans (a b c : Bucket × Value) (hab : inOrder a b = true)
    (hbc : inOrder b c = true) : inOrder a c = true := by
  simp only [inOrder, decide_eq_true_eq] at hab hbc ⊢
  exact Nat.le_trans hab hbc

theorem inOrder_total (a b : Bucket × Value) : (inOrder a b || inOrder b a) = true := by
  simp only [inOrder, Bool.or_eq_true, decide_eq_true_eq]
  exact Nat.le_total _ _

theorem pairwise_sortedByBucket (entries : List (Bucket × Value)) :
    (sortedByBucket entries).Pairwise fun e e' => inOrder e e' = true :=
  List.pairwise_mergeSort inOrder_trans inOrder_total entries

/-- Within a bucket nothing is moved. -/
theorem filter_sortedByBucket (kind : Bucket) (entries : List (Bucket × Value)) :
    ((sortedByBucket entries).filter fun e => e.1 = kind) = entries.filter fun e => e.1 = kind := by
  have hperm : (sortedByBucket entries).Perm entries := List.mergeSort_perm ..
  have hordered : (entries.filter fun e => e.1 = kind).Pairwise
      fun e e' => inOrder e e' = true := by
    refine List.pairwise_of_forall_mem_list fun e he e' he' => ?_
    have hkind := of_decide_eq_true (List.mem_filter.mp he).2
    have hkind' := of_decide_eq_true (List.mem_filter.mp he').2
    rw [inOrder, hkind, hkind', decide_eq_true_eq]
  have hsublist := List.sublist_mergeSort inOrder_trans inOrder_total hordered List.filter_sublist
  have hwithin := hsublist.filter fun e => e.1 = kind
  rw [List.filter_filter] at hwithin
  simp only [Bool.and_self] at hwithin
  exact (hwithin.eq_of_length (hperm.filter _).length_eq.symm).symm

/-- Entries in the order of their buckets are the entries of each bucket, one bucket after
another. -/
theorem eq_flatMap_filter (h : entries.Pairwise fun e e' => inOrder e e' = true) :
    entries = Bucket.all.flatMap fun kind => entries.filter fun e => e.1 = kind := by
  induction entries with
  | nil => rfl
  | cons e entries ih =>
    obtain ⟨own, v⟩ := e
    obtain ⟨hfirst, hrest⟩ := List.pairwise_cons.mp h
    -- behind the first entry there is none of a bucket before its own
    have hbefore : ∀ kind : Bucket, kind.rank < own.rank →
        (entries.filter fun e => e.1 = kind) = [] := by
      intro kind hkind
      refine List.filter_eq_nil_iff.mpr fun e he heq => ?_
      obtain rfl := of_decide_eq_true heq
      exact absurd (of_decide_eq_true (hfirst e he)) (Nat.not_le.mpr hkind)
    have hentries := ih hrest
    simp only [Bucket.all, List.flatMap_cons, List.flatMap_nil] at hentries ⊢
    cases own with
    | select => simpa using hentries
    | predicate =>
      have hselect := hbefore .select (by decide)
      simpa [hselect] using hentries
    | updateCollection =>
      have hselect := hbefore .select (by decide)
      have hpredicate := hbefore .predicate (by decide)
      simpa [hselect, hpredicate] using hentries
    | join =>
      have hselect := hbefore .select (by decide)
      have hpredicate := hbefore .predicate (by decide)
      have hqueued := hbefore .updateCollection (by decide)
      simpa [hselect, hpredicate, hqueued] using hentries

theorem flatMap_filter {α β : Type} (p : α → Bool) (f : α → List β) (items : List α) :
    (items.filter p).flatMap f = items.flatMap fun a => if p a then f a else [] := by
  induction items with
  | nil => rfl
  | cons a items ih =>
    rw [List.filter_cons, List.flatMap_cons, ← ih]
    split
    · rfl
    · rfl

theorem valuesOf_filter (p : Bucket → Bool) (kind : Bucket) (entries : List (Bucket × Value)) :
    valuesOf kind (entries.filter fun e => p e.1) =
      if p kind then valuesOf kind entries else [] := by
  rw [valuesOf, List.filter_filter]
  split
  · rename_i hp
    rw [valuesOf]
    refine congrArg _ (List.filter_congr fun e _ => ?_)
    by_cases he : e.1 = kind
    · simp [he, hp]
    · simp [he]
  · rename_i hp
    refine List.map_eq_nil_iff.mpr (List.filter_eq_nil_iff.mpr fun e _ he => hp ?_)
    simp only [Bool.and_eq_true, decide_eq_true_eq] at he
    exact he.1 ▸ he.2

/-- The values of some buckets in order are those of one bucket after another. -/
theorem map_snd_sortedByBucket (p : Bucket → Bool) (entries : List (Bucket × Value)) :
    (sortedByBucket (entries.filter fun e => p e.1)).map Prod.snd =
      (Bucket.all.filter p).flatMap fun kind => valuesOf kind entries := by
  have hkind : ∀ kind : Bucket,
      valuesOf kind (sortedByBucket (entries.filter fun e => p e.1)) =
        if p kind then valuesOf kind entries else [] := by
    intro kind
    rw [valuesOf, filter_sortedByBucket]
    exact valuesOf_filter p kind entries
  have hsorted := eq_flatMap_filter (pairwise_sortedByBucket (entries.filter fun e => p e.1))
  rw [hsorted, List.map_flatMap, flatMap_filter]
  exact List.flatMap_congr fun kind _ => hkind kind

end Sorting

/-- What the buckets hold of entries. -/
def Holds (b : Bindings) (entries : List (Bucket × Value)) : Prop :=
  ∀ kind, b.get kind = valuesOf kind entries

section Runs

variable {b : Bindings} {entries : List (Bucket × Value)}

theorem get_push (b : Bindings) (kind other : Bucket) (v : Value) :
    (b.push kind v).get other = if kind = other then b.get other ++ [v] else b.get other := by
  cases kind <;> cases other <;> rfl

theorem holds_empty : Holds ∅ [] := by
  intro kind
  cases kind <;> rfl

theorem holds_push (h : b.Holds entries) (kind : Bucket) (v : Value) :
    (b.push kind v).Holds (entries ++ [(kind, v)]) := by
  intro other
  rw [get_push, h other, valuesOf, valuesOf, List.filter_append, List.map_append]
  split
  · rename_i hkind
    simp [hkind]
  · rename_i hkind
    simp [hkind]

/-- After any run the buckets hold what was pushed since the last clear. -/
theorem holds_applyAll (steps : List Step) : (Step.applyAll steps).Holds (Step.pushed steps) := by
  induction steps using List.reverseRecOn with
  | nil => exact holds_empty
  | append_singleton steps step ih =>
    have hrun : Step.applyAll (steps ++ [step]) = step.apply (Step.applyAll steps) :=
      List.foldl_concat ..
    rw [hrun, Step.pushed]
    cases step with
    | push kind v =>
      rw [List.rtakeWhile_concat_pos _ _ _ rfl, List.filterMap_append]
      exact holds_push ih kind v
    | clear =>
      rw [List.rtakeWhile_concat_neg _ _ _ (by decide)]
      exact holds_empty

theorem flattenExcept_of_holds (h : b.Holds entries) (skip : List Bucket) :
    b.flattenExcept skip =
      (sortedByBucket (entries.filter fun e => !skip.contains e.1)).map Prod.snd := by
  have hsorted := map_snd_sortedByBucket (fun kind => !skip.contains kind) entries
  rw [hsorted, flattenExcept]
  exact List.flatMap_congr fun kind _ => h kind

theorem size_eq (b : Bindings) : b.size = (b.flattenExcept []).length := by
  rw [size, flattenExcept, List.length_flatMap, List.sum_eq_foldl, List.foldl_map]
  rfl

theorem size_of_holds (h : b.Holds entries) : b.size = entries.length := by
  rw [size_eq, flattenExcept_of_holds h, List.length_map, sortedByBucket, List.length_mergeSort]
  exact congrArg _ (List.filter_eq_self.mpr fun _ _ => rfl)

theorem updateArguments_eq (b : Bindings) (assigned : List Value) :
    b.updateArguments assigned =
      b.get .join ++ b.get .updateCollection ++ assigned ++ b.get .predicate := by
  rw [updateArguments]
  exact congrArg _ (List.append_nil _)

/-- An update leaves out the bucket of the projection and nothing else. -/
theorem updateArguments_perm (b : Bindings) (assigned : List Value) :
    (b.updateArguments assigned).Perm (b.flattenExcept [.select] ++ assigned) := by
  have hflatten : b.flattenExcept [.select] =
      b.get .predicate ++ (b.get .updateCollection ++ b.get .join) :=
    congrArg (_ ++ ·) (congrArg (_ ++ ·) (List.append_nil _))
  have hswap : (b.get .join ++ b.get .updateCollection).Perm
      (b.get .updateCollection ++ b.get .join) := List.perm_append_comm
  have hassigned := (hswap.append_right assigned).append_left (b.get .predicate)
  rw [updateArguments_eq, hflatten, List.append_assoc (b.get .predicate)]
  exact List.perm_append_comm.trans hassigned

/-- After any run of pushes and clears, the values of all buckets but the skipped ones are those
pushed to them since the last clear, sorted by bucket and otherwise in the order in which they came;
and there are as many values as such pushes. The arguments of an update are the values of joins, of
collection mutations, the assigned ones and those of predicates: each value outside the projection
once. -/
theorem applyAll_flattens (steps : List Step) :
    (∀ skip, (Step.applyAll steps).flattenExcept skip =
      (sortedByBucket ((Step.pushed steps).filter fun e => !skip.contains e.1)).map Prod.snd) ∧
    (Step.applyAll steps).size = ((Step.applyAll steps).flattenExcept []).length ∧
    (Step.applyAll steps).size = (Step.pushed steps).length ∧
    ∀ assigned,
      (Step.applyAll steps).updateArguments assigned =
        valuesOf .join (Step.pushed steps) ++ valuesOf .updateCollection (Step.pushed steps) ++
          assigned ++ valuesOf .predicate (Step.pushed steps) ∧
      ((Step.applyAll steps).updateArguments assigned).Perm
        ((Step.applyAll steps).flattenExcept [.select] ++ assigned) ∧
      ((Step.applyAll steps).updateArguments assigned).Perm
        (((Step.pushed steps).filter fun e => e.1 ≠ .select).map Prod.snd ++ assigned) := by
  have hholds := holds_applyAll steps
  refine ⟨flattenExcept_of_holds hholds, size_eq _, size_of_holds hholds, fun assigned => ?_⟩
  refine ⟨?_, updateArguments_perm _ assigned, ?_⟩
  · rw [updateArguments_eq, hholds, hholds, hholds]
  · have hpushed : ((Step.applyAll steps).flattenExcept [.select]).Perm
        (((Step.pushed steps).filter fun e => e.1 ≠ .select).map Prod.snd) := by
      rw [flattenExcept_of_holds hholds]
      refine (List.mergeSort_perm _ _).map Prod.snd |>.trans (.of_eq (congrArg _ ?_))
      refine List.filter_congr fun e _ => ?_
      simp
    exact (updateArguments_perm _ assigned).trans (hpushed.append_right assigned)

end Runs

/-- A clear in the middle, and buckets that are filled in turn. -/
example : (Step.applyAll [.push .join (.int 7), .clear, .push .join (.int 4),
    .push .predicate (.int 2), .push .select (.int 1), .push .predicate (.int 5)]).flattenExcept
      [.select] = [.int 2, .int 5, .int 4] := rfl

end Bindings

end Cql
