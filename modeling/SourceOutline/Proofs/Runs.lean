import SourceOutline.Proofs.Routing

/-! Trees read one after the other into the same resource. -/

namespace SourceOutline

structure Task where
  disk : Disk
  src : Source
  tree : Node

namespace Resource

def perform (r : Resource) (t : Task) : Resource :=
  r.extract t.disk t.src t.tree

def performAll (r : Resource) (tasks : List Task) : Resource :=
  tasks.foldl perform r

end Resource

namespace Task

def found (kind : ResourceKind) (t : Task) : Findings :=
  .ofRegion t.src (kind.defaultIdentifier t.disk) t.tree.region

def foundInAll (kind : ResourceKind) (tasks : List Task) : Findings where
  declarations := tasks.flatMap fun t => (t.found kind).declarations
  mentions := tasks.flatMap fun t => (t.found kind).mentions
  imports := tasks.flatMap fun t => (t.found kind).imports
  resources := tasks.flatMap fun t => (t.found kind).resources

def roots (tasks : List Task) : List Node :=
  tasks.flatMap fun t => t.tree.grounds.map Ground.node

/-- The nodes whose regions make the resource at an address: all trees for the one that they are
read into, a single ground for any resource in it. -/
def rootsAt? (tasks : List Task) : List Nat → Option (List Node)
  | [] => some (tasks.map tree)
  | i :: address =>
    (roots tasks)[i]?.bind fun root => (root.groundAt? address).map fun g => [g.node]

end Task

namespace Resource

lemma perform_eq (r : Resource) (t : Task) : r.perform t = r.absorb (t.found r.kind) := by
  rw [perform, extract_eq, Node.findingsBelow_eq]
  rfl

lemma performAll_eq (r : Resource) (tasks : List Task) :
    r.performAll tasks = r.absorb (Task.foundInAll r.kind tasks) := by
  induction tasks generalizing r with
  | nil =>
    cases r
    simp [performAll, absorb, Task.foundInAll]
  | cons t tasks ih =>
    have hs : r.performAll (t :: tasks) = (r.perform t).performAll tasks := rfl
    rw [hs, ih, perform_eq, absorb_append]
    rfl

end Resource

lemma roots_resources (kind : ResourceKind) (tasks : List Task) :
    List.Forall₂ (fun root child => ∃ d src k, child = (Resource.ofKind k).extract d src root)
      (Task.roots tasks) ((Resource.ofKind kind).performAll tasks).resources := by
  rw [Resource.performAll_eq]
  simp only [Resource.absorb, Resource.ofKind, List.nil_append, Task.foundInAll, Task.roots]
  induction tasks with
  | nil => exact .nil
  | cons t tasks ih =>
    rw [List.flatMap_cons, List.flatMap_cons]
    refine List.rel_append ?_ ih
    have hg := grounds_resources kind t.disk t.src t.tree
    rw [extract_fresh] at hg
    rw [List.forall₂_map_left_iff]
    refine hg.imp ?_
    rintro g child ⟨k, hk⟩
    exact ⟨t.disk, t.src, k, hk⟩

theorem performAll_everywhere {P : List Node → Resource → Prop}
    (h : ∀ kind tasks, P (tasks.map Task.tree) ((Resource.ofKind kind).performAll tasks))
    (kind : ResourceKind) (tasks : List Task) (address : List Nat) :
    Option.Rel P (Task.rootsAt? tasks address)
      (((Resource.ofKind kind).performAll tasks).at? address) := by
  cases address with
  | nil => exact .some (h kind tasks)
  | cons i address =>
    refine rel_bind (rel_getElem? (roots_resources kind tasks) i) ?_
    rintro root _ ⟨d, src, k, rfl⟩
    have hone : ∀ kind tree, P [tree] ((Resource.ofKind kind).extract d src tree) :=
      fun kind tree => h kind [⟨d, src, tree⟩]
    exact rel_map (extract_everywhere hone k root address)

end SourceOutline
