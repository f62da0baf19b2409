import Docket.Proofs.Field.Loop
import Docket.Proofs.Field.Search

/-! The search for loops reports circuits of the graph only, none of them twice, and a circuit from
every group of names that lead to one another. -/

namespace Docket.Dependency

open Relation

variable {graph : Graph} {path names loop : List Text} {found middle after : Found}
  {name other : Text}

section Growth

/-- Nothing that was visited or found is lost. -/
structure Found.Grows (found after : Found) : Prop where
  visited : found.visited ⊆ after.visited
  loops : found.loops ⊆ after.loops

theorem Found.Grows.trans (first : found.Grows middle) (second : middle.Grows after) :
    found.Grows after :=
  ⟨List.Subset.trans first.visited second.visited, List.Subset.trans first.loops second.loops⟩

theorem Found.grows_addLoop (found : Found) (loop : List Text) : found.Grows (found.addLoop loop) :=
  ⟨by rw [visited_addLoop]; exact List.Subset.refl _, loops_subset_addLoop found loop⟩

theorem Found.grows_enter (found : Found) (name : Text) : found.Grows (found.enter name) :=
  ⟨List.subset_cons_self _ _, List.Subset.refl _⟩

/-- A name on a loop stays on one. -/
theorem Found.OnLoop.grows (onLoop : found.OnLoop name) (grows : found.Grows after) :
    after.OnLoop name := by
  obtain ⟨loop, there, inside⟩ := onLoop
  exact ⟨loop, grows.loops there, inside⟩

/-- The search loses nothing. -/
theorem Explores.grows (explores : Explores graph path found names after) : found.Grows after := by
  induction explores with
  | done => exact ⟨List.Subset.refl _, List.Subset.refl _⟩
  | closes _ _ ih => exact (Found.grows_addLoop _ _).trans ih
  | passes _ _ _ ih => exact ih
  | enters _ _ _ _ ihInner ihLater =>
    exact (Found.grows_enter _ _).trans (ihInner.trans ihLater)

end Growth

section Soundness

/-- What was found are circuits, and no two have the same canonical form. -/
structure Found.Genuine (graph : Graph) (found : Found) : Prop where
  simple : ∀ loop ∈ found.loops, loop.Nodup
  circuit : ∀ loop ∈ found.loops, IsCircuit (Edge graph) (loop ++ loop.take 1)
  apart : (found.loops.map canonical).Nodup

/-- A circuit may be added. -/
theorem Found.Genuine.addLoop (genuine : found.Genuine graph) (simple : loop.Nodup)
    (circuit : IsCircuit (Edge graph) (loop ++ loop.take 1)) :
    (found.addLoop loop).Genuine graph := by
  rcases found.addLoop_cases loop with ⟨-, same⟩ | ⟨fresh, more⟩
  · rw [same]
    exact genuine
  · rw [more]
    refine ⟨?_, ?_, ?_⟩
    · simpa [or_imp, forall_and] using ⟨genuine.simple, simple⟩
    · simpa [or_imp, forall_and] using ⟨genuine.circuit, circuit⟩
    · -- A loop is added only if its canonical form is new.
      rw [List.map_append, List.map_singleton, ← List.concat_eq_append]
      exact genuine.apart.concat fresh

/-- Whatever the search adds at the end of a path along edges is a circuit. -/
theorem Explores.genuine (explores : Explores graph path found names after)
    (genuine : found.Genuine graph) (simple : path.Nodup) (chain : path.IsChain (Edge graph))
    (onward : ∀ name ∈ names, ∀ last ∈ path.getLast?, Edge graph last name) :
    after.Genuine graph := by
  induction explores with
  | done => exact genuine
  | closes onPath _ ih =>
    -- The last name of the path has an edge to one on the path, where the circuit begins.
    have circuit := isCircuit_close simple chain onPath (onward _ (.head _))
    have added := genuine.addLoop (simple.sublist (List.dropWhile_sublist _)) circuit
    exact ih added simple chain fun name inside => onward name (.tail _ inside)
  | passes _ _ _ ih =>
    exact ih genuine simple chain fun name inside => onward name (.tail _ inside)
  | @enters path rest found middle after next offPath _ _ _ ihInner ihLater =>
    -- The path goes on along the edge from its last name.
    have simpler : (path ++ [next]).Nodup := List.concat_eq_append ▸ simple.concat offPath
    have longer : (path ++ [next]).IsChain (Edge graph) := by
      refine chain.append (List.isChain_singleton next) fun last there _ same => ?_
      obtain rfl : next = _ := Option.some.inj same
      exact onward next (.head _) last there
    have inner : middle.Genuine graph := by
      refine ihInner ⟨genuine.simple, genuine.circuit, genuine.apart⟩ simpler longer ?_
      intro name inside last there
      rw [List.getLast?_concat, Option.mem_some_iff] at there
      exact there ▸ inside
    exact ihLater inner simple chain fun name inside => onward name (.tail _ inside)

end Soundness

section Completeness

/-- Two names are tied if each of them leads to the other. -/
def Tied (edge : Text → Text → Prop) (name other : Text) : Prop :=
  ReflTransGen edge name other ∧ ReflTransGen edge other name

/-- What holds between two steps of the search. A name that was visited and is not on the path is
done with. -/
structure Found.Surveyed (graph : Graph) (path : List Text) (found : Found) : Prop where
  /-- The names on the path have been visited. -/
  entered : path ⊆ found.visited
  /-- A name that is done with leads to visited names. -/
  closed : ∀ name ∈ found.visited, name ∉ path → targets graph name ⊆ found.visited
  /-- A name on the path is on a loop if a name that is done with leads to it. -/
  caught : ∀ name ∈ found.visited, name ∉ path →
    ∀ target ∈ targets graph name, target ∈ path → found.OnLoop target
  /-- A name that is done with and leads back to itself is tied to a name on a loop. -/
  bound : ∀ name ∈ found.visited, name ∉ path → TransGen (Edge graph) name name →
    ∃ other, found.OnLoop other ∧ Tied (Edge graph) name other

/-- A name has been handled if it has been visited, and is on a loop if it is on the path. -/
def Found.Handled (path : List Text) (found : Found) (name : Text) : Prop :=
  name ∈ found.visited ∧ (name ∈ path → found.OnLoop name)

/-- A way from a name that is done with to one on the path enters the path from a name that is done
with. -/
theorem Found.Surveyed.crossing (surveyed : found.Surveyed graph path)
    (way : ReflTransGen (Edge graph) name other) (visited : name ∈ found.visited)
    (offPath : name ∉ path) (onPath : other ∈ path) :
    ∃ gate, found.OnLoop gate ∧ ReflTransGen (Edge graph) name gate ∧
      ReflTransGen (Edge graph) gate other := by
  induction way using ReflTransGen.head_induction_on with
  | refl => exact absurd onPath offPath
  | @head name next step rest ih =>
    -- The next name is the way in, or it was visited as well and the way goes on from there.
    by_cases there : next ∈ path
    · exact ⟨next, surveyed.caught name visited offPath next step there, .single step, rest⟩
    · obtain ⟨gate, onLoop, onward, last⟩ :=
        ih (surveyed.closed name visited offPath step) there
      exact ⟨gate, onLoop, .head step onward, last⟩

/-- More loops do no harm. -/
theorem Found.Surveyed.addLoop (surveyed : found.Surveyed graph path) :
    (found.addLoop loop).Surveyed graph path where
  -- A loop that is added visits no name, so only what is said of loops has to grow.
  entered := by
    rw [visited_addLoop]
    exact surveyed.entered
  closed := by
    rw [visited_addLoop]
    exact surveyed.closed
  caught := by
    rw [visited_addLoop]
    exact fun name visited offPath target inside onPath =>
      (surveyed.caught name visited offPath target inside onPath).grows (found.grows_addLoop loop)
  bound := by
    rw [visited_addLoop]
    intro name visited offPath back
    obtain ⟨other, onLoop, tied⟩ := surveyed.bound name visited offPath back
    exact ⟨other, onLoop.grows (found.grows_addLoop loop), tied⟩

/-- Entering a fresh name puts it on the path, and nothing is done with that was not before. -/
theorem Found.Surveyed.enter (surveyed : found.Surveyed graph path)
    (fresh : name ∉ found.visited) : (found.enter name).Surveyed graph (path ++ [name]) := by
  -- What is done with after the entry was done with before it.
  have before {other : Text} (visited : other ∈ (found.enter name).visited)
      (offPath : other ∉ path ++ [name]) : other ∈ found.visited ∧ other ∉ path := by
    simp only [List.mem_append, List.mem_singleton, not_or] at offPath
    exact ⟨(List.mem_cons.mp visited).resolve_left offPath.2, offPath.1⟩
  refine ⟨?_, ?_, ?_, ?_⟩
  · refine List.append_subset.mpr ⟨fun other onPath => .tail _ (surveyed.entered onPath), ?_⟩
    exact fun other same => List.mem_singleton.mp same ▸ .head _
  · intro other visited offPath target inside
    obtain ⟨visited, offPath⟩ := before visited offPath
    exact .tail _ (surveyed.closed other visited offPath inside)
  · -- Names that are done with lead to visited names, so not to the fresh one.
    intro other visited offPath target inside onPath
    obtain ⟨visited, offPath⟩ := before visited offPath
    have known := surveyed.closed other visited offPath inside
    rcases List.mem_append.mp onPath with onPath | last
    · exact surveyed.caught other visited offPath target inside onPath
    · exact absurd (List.mem_singleton.mp last ▸ known) fresh
  · intro other visited offPath back
    obtain ⟨visited, offPath⟩ := before visited offPath
    exact surveyed.bound other visited offPath back

/-- A name at the end of the path is done with once its targets have been handled. -/
theorem Found.Surveyed.leave (surveyed : found.Surveyed graph (path ++ [name]))
    (handled : ∀ target ∈ targets graph name, found.Handled (path ++ [name]) target) :
    found.Surveyed graph path := by
  have last : name ∈ path ++ [name] := by simp
  have wider {other : Text} (onPath : other ∈ path) : other ∈ path ++ [name] :=
    List.mem_append_left _ onPath
  -- What is done with now was done with before, or it is the name itself.
  have apart {other : Text} (offPath : other ∉ path) (different : other ≠ name) :
      other ∉ path ++ [name] := by
    simp [offPath, different]
  refine ⟨fun other onPath => surveyed.entered (wider onPath), ?_, ?_, ?_⟩
  · -- What the name itself leads to has been handled; other names were off the path already.
    intro other visited offPath target inside
    by_cases same : other = name
    · subst same
      exact (handled target inside).1
    · exact surveyed.closed other visited (apart offPath same) inside
  · intro other visited offPath target inside onPath
    by_cases same : other = name
    · subst same
      exact (handled target inside).2 (wider onPath)
    · exact surveyed.caught other visited (apart offPath same) target inside (wider onPath)
  · intro other visited offPath back
    by_cases same : other = name
    · subst same
      -- The way back begins with an edge to a target, which is on the path or done with.
      obtain ⟨target, step, rest⟩ := TransGen.head'_iff.mp back
      by_cases onPath : target ∈ path ++ [other]
      · exact ⟨target, (handled target step).2 onPath, .single step, rest⟩
      · obtain ⟨gate, onLoop, onward, rest⟩ :=
          surveyed.crossing rest (handled target step).1 onPath last
        exact ⟨gate, onLoop, .head step onward, rest⟩
    · exact surveyed.bound other visited (apart offPath same) back

/-- The search keeps to what holds between its steps and handles every name it goes through. -/
theorem Explores.surveyed (explores : Explores graph path found names after)
    (surveyed : found.Surveyed graph path) :
    after.Surveyed graph path ∧ ∀ name ∈ names, after.Handled path name := by
  induction explores with
  | done => exact ⟨surveyed, fun _ inside => absurd inside List.not_mem_nil⟩
  | @closes path rest found after next onPath later ih =>
    -- The loop that is added begins with the name, so the name is on a loop from now on.
    obtain ⟨surveyedAfter, handled⟩ := ih surveyed.addLoop
    refine ⟨surveyedAfter, List.forall_mem_cons.mpr ⟨?_, handled⟩⟩
    have inside : next ∈ path.dropWhile (· != next) := by
      obtain ⟨-, back, -, -, cut⟩ := exists_cut onPath
      exact cut ▸ .head _
    have visited := (later.grows.visited <| (found.grows_addLoop _).visited <|
      surveyed.entered onPath)
    exact ⟨visited, fun _ => (Found.onLoop_addLoop inside).grows later.grows⟩
  | passes offPath visited later ih =>
    obtain ⟨surveyedAfter, handled⟩ := ih surveyed
    refine ⟨surveyedAfter, List.forall_mem_cons.mpr ⟨?_, handled⟩⟩
    exact ⟨later.grows.visited visited, fun onPath => absurd onPath offPath⟩
  | enters offPath fresh inner later ihInner ihLater =>
    -- The targets are handled with the name on the path, and then it is done with.
    obtain ⟨surveyedInner, handledInner⟩ := ihInner (surveyed.enter fresh)
    obtain ⟨surveyedAfter, handled⟩ := ihLater (surveyedInner.leave handledInner)
    refine ⟨surveyedAfter, List.forall_mem_cons.mpr ⟨?_, handled⟩⟩
    exact ⟨later.grows.visited (inner.grows.visited (.head _)), fun onPath => absurd onPath offPath⟩

end Completeness

end Docket.Dependency
