import Mathlib.Tactic.ByContra
import Mathlib.Tactic.SplitIfs
import TypedSheets.Yaml.NodeValue

/-!
# Documents that are trees

In a document without aliases and merges every reference leads to a later place. Reading such a
document always succeeds: each round of filling reaches places further back, so it ends before
the bound, and every node that was met holds what its place stands for.
-/

namespace TypedSheets.Yaml

/-- The tags of scalars that are read by their own text. -/
def isAtomTag : Tag → Bool
  | .null | .bool | .int | .float | .binary | .timestamp | .text => true
  | _ => false

/-- What a scalar stands for; other nodes stand for no atom. -/
def Node.atom : Node → Value
  | .scalar tag text => ((scalarValue tag text).toOption).getD .null
  | _ => .null

/-- What the scalar at a place stands for. -/
def atomAt (nodes : Array Node) (place : Nat) : Value := (nodes[place]?.getD .empty).atom

/-- What the node at a place is read into, when no references lead back. -/
def standing (nodes : Array Node) (place : Nat) : Content :=
  match nodes[place]?.getD .empty with
  | .scalar tag text => .atom (Node.scalar tag text).atom
  | .sequence _ items => .list items
  | .mapping _ entries => .map (entries.map fun e => (atomAt nodes e.1, e.2))

/-- Whether a node is a scalar that is read by its own text, without fault. -/
def Node.IsAtom (node : Node) : Prop :=
  ∃ tag text value, node = .scalar tag text ∧ isAtomTag tag = true ∧
    scalarValue tag text = .ok value ∧ value ≠ .float .nan

/-- A node of a tree: an atom, a sequence of later places, or a mapping of later places whose
keys are different atoms. -/
inductive InTree (nodes : Array Node) (place : Nat) : Prop
  | atom (node : Node) (found : nodes[place]? = some node) (isAtom : node.IsAtom)
  | list (items : List Nat) (found : nodes[place]? = some (.sequence .sequence items))
      (later : ∀ q ∈ items, place < q ∧ q < nodes.size)
  | map (entries : List (Nat × Nat)) (found : nodes[place]? = some (.mapping .mapping entries))
      (later : ∀ e ∈ entries, place < e.1 ∧ place < e.2 ∧ e.2 < nodes.size)
      (keys : ∀ e ∈ entries, ∃ node, nodes[e.1]? = some node ∧ node.IsAtom)
      (apart : (entries.map fun e => atomAt nodes e.1).Pairwise fun a b => Value.same a b = false)

/-- A tree: each node is one of a tree. -/
def IsTree (nodes : Array Node) : Prop := ∀ place < nodes.size, InTree nodes place

section Standing

variable {nodes : Array Node} {place : Nat}

/-- An atom stands for its value. -/
theorem standing_atom {node : Node} (found : nodes[place]? = some node) (isAtom : node.IsAtom) :
    standing nodes place = .atom (atomAt nodes place) := by
  obtain ⟨tag, text, value, rfl, -⟩ := isAtom
  simp [standing, atomAt, found]

theorem standing_list {tag : Tag} {items : List Nat}
    (found : nodes[place]? = some (.sequence tag items)) :
    standing nodes place = .list items := by
  simp [standing, found]

theorem standing_map {tag : Tag} {entries : List (Nat × Nat)}
    (found : nodes[place]? = some (.mapping tag entries)) :
    standing nodes place = .map (entries.map fun e => (atomAt nodes e.1, e.2)) := by
  simp [standing, found]

end Standing

namespace Reading

/-- What is put down at a place is found there, and nothing else changes. -/
theorem contentAt?_put (s : Reading) (place q : Nat) (content : Content)
    (inside : place < s.contents.size) :
    (s.put place content).contentAt? q = if place = q then some content else s.contentAt? q := by
  unfold contentAt? put
  rw [Array.getElem?_setIfInBounds]
  split_ifs with same
  · subst same
    rfl
  · rfl

/-- What was met stays met when a content is put down. -/
theorem met_put (s : Reading) (place q : Nat) (content : Content) (inside : place < s.contents.size)
    (met : s.contentAt? q ≠ none) : (s.put place content).contentAt? q ≠ none := by
  rw [contentAt?_put s place q content inside]
  split_ifs
  · simp
  · exact met

/-- The place of the content is met. -/
theorem met_put_self (s : Reading) (place : Nat) (content : Content)
    (inside : place < s.contents.size) : (s.put place content).contentAt? place ≠ none := by
  rw [contentAt?_put s place place content inside, if_pos rfl]
  simp

/-- Reading on: the nodes stay, and every place holds nothing, or what it stands for, or is a
collection that waits. What a filled place refers to was met. -/
structure Progress (nodes : Array Node) (todo : List Nat) (s : Reading) : Prop where
  nodes_eq : s.nodes = nodes
  bound : 1 ≤ s.bound
  size : s.contents.size = nodes.size
  content : ∀ p < nodes.size, s.contentAt? p = none ∨ s.contentAt? p = some (standing nodes p) ∨
    p ∈ s.pending ∨ p ∈ todo
  waiting : ∀ p, p ∈ s.pending ∨ p ∈ todo →
    p < nodes.size ∧ ∀ value, standing nodes p ≠ .atom value
  closed : ∀ p < nodes.size, s.contentAt? p = some (standing nodes p) →
    (∀ items, standing nodes p = .list items → ∀ q ∈ items, s.contentAt? q ≠ none) ∧
    (∀ entries, standing nodes p = .map entries → ∀ e ∈ entries, s.contentAt? e.2 ≠ none)

/-- One state follows another: what was met stays met, and what waits now waited before or does not
lie before a place. -/
structure Follows (low : Nat) (s t : Reading) : Prop where
  met : ∀ q, s.contentAt? q ≠ none → t.contentAt? q ≠ none
  pending : ∀ q ∈ t.pending, q ∈ s.pending ∨ low ≤ q

theorem Follows.refl (low : Nat) (s : Reading) : Follows low s s :=
  ⟨fun _ found => found, fun _ present => .inl present⟩

theorem Follows.trans {low : Nat} {s t u : Reading} (first : Follows low s t)
    (second : Follows low t u) : Follows low s u where
  met q found := second.met q (first.met q found)
  pending q present := by
    rcases second.pending q present with before | behind
    · exact first.pending q before
    · exact .inr behind

variable {nodes : Array Node} {todo : List Nat} {s : Reading} {place : Nat} (low : Nat)

theorem Progress.nodeAt_eq (progress : Progress nodes todo s) {node : Node}
    (found : nodes[place]? = some node) : s.nodeAt place = node := by
  rw [nodeAt, progress.nodes_eq, found]
  rfl

/-- An atom is read without fault. -/
theorem Progress.atomValue_eq (progress : Progress nodes todo s) {node : Node}
    (found : nodes[place]? = some node) (isAtom : node.IsAtom) :
    s.atomValue place = .ok (atomAt nodes place) := by
  have present := progress.nodeAt_eq found
  obtain ⟨tag, text, value, rfl, atomTag, read, number⟩ := isAtom
  have stands : atomAt nodes place = value := by
    simp [atomAt, found, Node.atom, read, Except.toOption]
  have ownText : s.scalarText (s.nodes.size + 1) place = .ok text := by
    rw [scalarText, present]
  unfold atomValue
  simp only [ownText, present, Node.tag, read, stands, bind, Except.bind, pure, Except.pure]

/-- Putting a content down keeps the state in order, when it is the one that its place stands for
or the place waits, and when all that lies in it was met. -/
theorem Progress.put {left : List Nat} (progress : Progress nodes left s) (inside : place < nodes.size)
    (content : Content) (pending : List Nat)
    (fits : content = standing nodes place ∨ place ∈ pending)
    (kept : ∀ q, q ∈ s.pending ∨ q ∈ left → q = place ∨ q ∈ pending ∨ q ∈ todo)
    (waits : ∀ q, q ∈ pending ∨ q ∈ todo →
      (q ∈ s.pending ∨ q ∈ left) ∨ q = place ∧ ∀ value, standing nodes place ≠ .atom value)
    (lists : ∀ items, content = .list items → ∀ q ∈ items, s.contentAt? q ≠ none)
    (maps : ∀ entries, content = .map entries → ∀ e ∈ entries, s.contentAt? e.2 ≠ none) :
    Progress nodes todo { s.put place content with pending := pending } := by
  have stored : place < s.contents.size := by rw [progress.size]; exact inside
  have found (q : Nat) : ({ s.put place content with pending := pending } : Reading).contentAt? q =
      if place = q then some content else s.contentAt? q :=
    contentAt?_put s place q content stored
  have stays (q : Nat) (met : s.contentAt? q ≠ none) :
      ({ s.put place content with pending := pending } : Reading).contentAt? q ≠ none :=
    met_put s place q content stored met
  refine ⟨progress.nodes_eq, progress.bound, ?_, ?_, ?_, ?_⟩
  · rw [show ({ s.put place content with pending := pending } : Reading).contents =
      s.contents.setIfInBounds place (some content) from rfl, Array.size_setIfInBounds]
    exact progress.size
  · intro p insideP
    rw [found]
    split_ifs with same
    · subst same
      rcases fits with rfl | waiting
      · exact .inr (.inl rfl)
      · exact .inr (.inr (.inl waiting))
    · rcases progress.content p insideP with none | stands | before
      · exact .inl none
      · exact .inr (.inl stands)
      · exact .inr (.inr ((kept p before).resolve_left fun here => same here.symm))
  · intro p present
    rcases waits p present with before | ⟨rfl, collection⟩
    · exact progress.waiting p before
    · exact ⟨inside, collection⟩
  · intro p insideP holds
    rw [found] at holds
    split_ifs at holds with same
    · rw [Option.some.injEq] at holds
      subst same
      exact ⟨fun items is q member => stays q (lists items (holds.trans is) q member),
        fun entries is e member => stays e.2 (maps entries (holds.trans is) e member)⟩
    · obtain ⟨ownLists, ownMaps⟩ := progress.closed p insideP holds
      exact ⟨fun items is q member => stays q (ownLists items is q member),
        fun entries is e member => stays e.2 (ownMaps entries is e member)⟩

theorem follows_put (s : Reading) (content : Content) (inside : place < s.contents.size) :
    Follows low s (s.put place content) where
  met q met := met_put s place q content inside met
  pending _ present := .inl present

/-- Meeting a collection puts it down empty and lets it wait. -/
theorem Progress.wait (progress : Progress nodes todo s) (inside : place < nodes.size)
    (behind : low ≤ place) (content : Content)
    (bare : (∀ items, content = .list items → items = []) ∧
      (∀ entries, content = .map entries → entries = []))
    (collection : ∀ value, standing nodes place ≠ .atom value) :
    ∃ t, Except.ok (ε := ReadError) { s.put place content with pending := place :: s.pending } = .ok t ∧
      Progress nodes todo t ∧ Follows low s t ∧ t.contentAt? place ≠ none := by
  have stored : place < s.contents.size := by rw [progress.size]; exact inside
  have onward : Progress nodes todo { s.put place content with pending := place :: s.pending } := by
    refine progress.put inside content (place :: s.pending) (.inr (List.mem_cons_self ..)) ?_ ?_
      (fun items is q member => ?_) (fun entries is e member => ?_)
    · exact fun _ present => .inr (present.imp_left (List.mem_cons_of_mem _))
    · rintro q (present | left)
      · rcases List.mem_cons.mp present with rfl | before
        · exact .inr ⟨rfl, collection⟩
        · exact .inl (.inl before)
      · exact .inl (.inr left)
    · rw [bare.1 items is] at member
      simp at member
    · rw [bare.2 entries is] at member
      simp at member
  refine ⟨_, rfl, onward, ⟨fun q met => met_put s place q content stored met, ?_⟩,
    met_put_self s place content stored⟩
  intro q present
  rcases List.mem_cons.mp present with rfl | before
  · exact .inr behind
  · exact .inl before

/-- Meeting a node. An atom is read at once. -/
theorem start_progress (tree : IsTree nodes) (progress : Progress nodes todo s)
    (inside : place < nodes.size) (behind : low ≤ place) :
    ∃ t, s.start place = .ok t ∧ Progress nodes todo t ∧ Follows low s t ∧
      t.contentAt? place ≠ none := by
  unfold start
  by_cases met : (s.contentAt? place).isSome = true
  · rw [if_pos met]
    refine ⟨s, rfl, progress, .refl low s, ?_⟩
    intro unmet
    simp [unmet] at met
  rw [if_neg met]
  cases tree place inside with
  | atom node found isAtom =>
    have read := progress.atomValue_eq found isAtom
    have stands := standing_atom found isAtom
    have present := progress.nodeAt_eq found
    obtain ⟨tag, text, value, rfl, atomTag, -⟩ := isAtom
    have started : (s.atomValue place).map (fun value => s.put place (.atom value)) =
        .ok (s.put place (.atom (atomAt nodes place))) := by
      rw [read]
      rfl
    have stored : place < s.contents.size := by rw [progress.size]; exact inside
    have onward : Progress nodes todo (s.put place (.atom (atomAt nodes place))) :=
      progress.put inside _ s.pending (.inl stands.symm) (fun q before => .inr before)
        (fun q waits => .inl waits) (by simp) (by simp)
    refine ⟨s.put place (.atom (atomAt nodes place)), ?_, onward, follows_put low s _ stored,
      met_put_self s place _ stored⟩
    rw [← started, present]
    cases tag <;> simp_all [isAtomTag, Node.tag]
  | list items found later =>
    rw [progress.nodeAt_eq found]
    exact progress.wait low inside behind (.list []) (by simp) (by simp [standing_list found])
  | map entries found later keys apart =>
    rw [progress.nodeAt_eq found]
    exact progress.wait low inside behind (.map []) (by simp) (by simp [standing_map found])

/-- An atom that was met holds its value: it never waits. -/
theorem Progress.atom_of_met (progress : Progress nodes todo s) {node : Node}
    (found : nodes[place]? = some node) (isAtom : node.IsAtom)
    (met : s.contentAt? place ≠ none) :
    s.contentAt? place = some (.atom (atomAt nodes place)) := by
  have stands := standing_atom found isAtom
  have inside : place < nodes.size := by
    rw [Array.getElem?_eq_some_iff] at found
    exact found.1
  rcases progress.content place inside with unmet | holds | waits | left
  · exact absurd unmet met
  · rw [holds, stands]
  · exact absurd stands ((progress.waiting place (.inl waits)).2 _)
  · exact absurd stands ((progress.waiting place (.inr left)).2 _)

/-- Meeting the items of a sequence. -/
theorem startAll_progress (tree : IsTree nodes) (items : List Nat) (progress : Progress nodes todo s)
    (later : ∀ q ∈ items, low ≤ q ∧ q < nodes.size) :
    ∃ t, s.startAll items = .ok t ∧ Progress nodes todo t ∧ Follows low s t ∧
      ∀ q ∈ items, t.contentAt? q ≠ none := by
  induction items generalizing s with
  | nil => exact ⟨s, rfl, progress, .refl low s, by simp⟩
  | cons item items inductionHypothesis =>
    obtain ⟨behind, inside⟩ := later item (List.mem_cons_self ..)
    obtain ⟨t, started, onward, follows, met⟩ := start_progress low tree progress inside behind
    obtain ⟨u, rest, last, further, others⟩ :=
      inductionHypothesis onward fun q member => later q (List.mem_cons_of_mem _ member)
    refine ⟨u, ?_, last, follows.trans further, ?_⟩
    · simp only [startAll, started, bind, Except.bind, rest]
    · intro q member
      rcases List.mem_cons.mp member with rfl | member
      · exact further.met q met
      · exact others q member

/-- Meeting the entries of a mapping with atoms as keys. -/
theorem startEntries_progress (tree : IsTree nodes) (entries : List (Nat × Nat))
    (progress : Progress nodes todo s)
    (later : ∀ e ∈ entries, low ≤ e.1 ∧ low ≤ e.2 ∧ e.2 < nodes.size)
    (keys : ∀ e ∈ entries, ∃ node, nodes[e.1]? = some node ∧ node.IsAtom) :
    ∃ t, s.startEntries entries = .ok (entries.map fun e => (atomAt nodes e.1, e.2), t) ∧
      Progress nodes todo t ∧ Follows low s t ∧ ∀ e ∈ entries, t.contentAt? e.2 ≠ none := by
  induction entries generalizing s with
  | nil => exact ⟨s, rfl, progress, .refl low s, by simp⟩
  | cons entry entries inductionHypothesis =>
    obtain ⟨key, value⟩ := entry
    obtain ⟨behindKey, behindValue, insideValue⟩ := later (key, value) (List.mem_cons_self ..)
    obtain ⟨node, found, isAtom⟩ := keys (key, value) (List.mem_cons_self ..)
    have insideKey : key < nodes.size := by
      rw [Array.getElem?_eq_some_iff] at found
      exact found.1
    obtain ⟨t, keyStarted, onward, follows, keyMet⟩ :=
      start_progress low tree progress insideKey behindKey
    obtain ⟨u, valueStarted, further, followsValue, valueMet⟩ :=
      start_progress low tree onward insideValue behindValue
    obtain ⟨v, rest, last, followsRest, others⟩ := inductionHypothesis further
      (fun e member => later e (List.mem_cons_of_mem _ member))
      (fun e member => keys e (List.mem_cons_of_mem _ member))
    have holds := onward.atom_of_met found isAtom keyMet
    refine ⟨v, ?_, last, (follows.trans followsValue).trans followsRest, ?_⟩
    · simp only [startEntries, keyStarted, holds, valueStarted, rest, bind, Except.bind, pure,
        Except.pure, List.map_cons]
    · intro e member
      rcases List.mem_cons.mp member with rfl | member
      · exact followsRest.met _ valueMet
      · exact others e member

/-- A key that is no default key stays. -/
theorem plainKey_eq (s : Reading) (place : Nat) (plain : (s.nodeAt place).tag ≠ .defaultKey) :
    s.plainKey place = s := by
  have same : (s.nodes.modify place fun node =>
      if node.tag = .defaultKey then node.withTag .text else node) = s.nodes := by
    refine Array.ext (by simp) fun i inside _ => ?_
    rw [Array.getElem_modify]
    split_ifs with here special
    · subst here
      have inside : place < s.nodes.size := by simpa using inside
      exact absurd (by rw [nodeAt, Array.getElem?_eq_getElem inside]; exact special) plain
    · rfl
    · rfl
  rw [plainKey, same]

/-- A mapping with atoms as keys has nothing to merge. -/
theorem takeMerge_atoms (s : Reading) (passed entries : List (Nat × Nat))
    (keys : ∀ e ∈ entries, isAtomTag (s.nodeAt e.1).tag = true) :
    s.takeMerge passed entries = (s, none) := by
  induction entries generalizing passed with
  | nil => rfl
  | cons entry entries inductionHypothesis =>
    obtain ⟨key, value⟩ := entry
    have atomTag := keys (key, value) (List.mem_cons_self ..)
    have noMerge : (s.nodeAt key).tag ≠ .merge := by
      intro is
      simp [is, isAtomTag] at atomTag
    have plain : (s.nodeAt key).tag ≠ .defaultKey := by
      intro is
      simp [is, isAtomTag] at atomTag
    rw [takeMerge, if_neg noMerge, plainKey_eq s key plain]
    exact inductionHypothesis _ fun e member => keys e (List.mem_cons_of_mem _ member)

/-- Merging in a mapping with atoms as keys changes nothing. -/
theorem Progress.flatten_eq (progress : Progress nodes todo s) {entries : List (Nat × Nat)}
    (found : nodes[place]? = some (.mapping .mapping entries))
    (keys : ∀ e ∈ entries, ∃ node, nodes[e.1]? = some node ∧ node.IsAtom) :
    flatten s.bound place 0 [] s = .ok s := by
  obtain ⟨bound, enough⟩ : ∃ bound, s.bound = bound + 1 := ⟨s.bound - 1, by have := progress.bound; omega⟩
  have own : s.entriesAt? place = some entries := by
    rw [entriesAt?, progress.nodeAt_eq found]
  have atoms : ∀ e ∈ entries, isAtomTag (s.nodeAt e.1).tag = true := by
    intro e member
    obtain ⟨node, present, tag, text, value, rfl, atomTag, -⟩ := keys e member
    rw [progress.nodeAt_eq present]
    exact atomTag
  rw [enough, flatten, own]
  simp [takeMerge_atoms s [] entries atoms]

/-- A new key goes to the end. -/
theorem putPlace_new (key : Value) (place : Nat) (built : List (Value × Nat))
    (new : ∀ entry ∈ built, Value.same entry.1 key = false) :
    putPlace key place built = built ++ [(key, place)] := by
  induction built with
  | nil => rfl
  | cons entry built inductionHypothesis =>
    rw [putPlace, new entry (List.mem_cons_self ..)]
    simp [inductionHypothesis fun e member => new e (List.mem_cons_of_mem _ member)]

/-- Entries whose keys all differ are put down as they are. -/
theorem putPlaces_apart (built entries : List (Value × Nat))
    (apart : ((built ++ entries).map Prod.fst).Pairwise fun a b => Value.same a b = false) :
    entries.foldl (fun built entry => putPlace entry.1 entry.2 built) built = built ++ entries := by
  induction entries generalizing built with
  | nil => simp
  | cons entry entries inductionHypothesis =>
    have new : ∀ e ∈ built, Value.same e.1 entry.1 = false := by
      intro e member
      rw [List.map_append, List.pairwise_append] at apart
      exact apart.2.2 e.1 (List.mem_map_of_mem member) entry.1 (by simp)
    rw [List.foldl_cons, putPlace_new _ _ _ new, inductionHypothesis]
    · simp
    · simpa using apart

/-- Putting what a place stands for down there takes it off the list. -/
theorem Progress.put_done (progress : Progress nodes (place :: todo) s)
    (lists : ∀ items, standing nodes place = .list items → ∀ q ∈ items, s.contentAt? q ≠ none)
    (maps : ∀ entries, standing nodes place = .map entries → ∀ e ∈ entries, s.contentAt? e.2 ≠ none) :
    Progress nodes todo (s.put place (standing nodes place)) := by
  have inside := (progress.waiting place (.inr (List.mem_cons_self ..))).1
  refine progress.put inside (standing nodes place) s.pending (.inl rfl) ?_ ?_ lists maps
  · rintro q (present | left)
    · exact .inr (.inl present)
    · exact (List.mem_cons.mp left).imp_right .inr
  · exact fun q waits => .inl (waits.imp_right (List.mem_cons_of_mem _))

/-- Filling a collection that waits meets what lies in it, which is behind it. -/
theorem fill_progress (tree : IsTree nodes) (progress : Progress nodes (place :: todo) s)
    (low_le : low ≤ place) :
    ∃ t, s.fill place = .ok t ∧ Progress nodes todo t ∧ Follows (low + 1) s t := by
  obtain ⟨inside, collection⟩ := progress.waiting place (.inr (List.mem_cons_self ..))
  cases tree place inside with
  | atom node found isAtom => exact absurd (standing_atom found isAtom) (collection _)
  | list items found later =>
    have stands := standing_list found
    obtain ⟨t, started, onward, follows, met⟩ := startAll_progress (place + 1) tree items progress later
    have present := progress.nodeAt_eq found
    refine ⟨t.put place (.list items), ?_, ?_, ?_⟩
    · simp only [fill, present, Node.tag, started, bind, Except.bind, pure, Except.pure]
    · rw [← stands]
      refine onward.put_done ?_ ?_
      · intro others is
        rw [stands] at is
        cases is
        exact met
      · intro entries is
        simp [stands] at is
    · have nearer : Follows (low + 1) s t :=
        ⟨follows.met, fun q waits => (follows.pending q waits).imp id (by omega)⟩
      exact nearer.trans (follows_put (low + 1) t _ (by rw [onward.size]; exact inside))
  | map entries found later keys apart =>
    have stands := standing_map found
    obtain ⟨t, started, onward, follows, met⟩ :=
      startEntries_progress (place + 1) tree entries progress later keys
    have present := progress.nodeAt_eq found
    have own : s.entriesAt? place = some entries := by rw [entriesAt?, present]
    have united := putPlaces_apart [] (entries.map fun e => (atomAt nodes e.1, e.2))
      (by simpa [Function.comp_def] using apart)
    have filled : s.fillEntries place = .ok (entries.map fun e => (atomAt nodes e.1, e.2), t) := by
      simp only [fillEntries, present, progress.flatten_eq found keys, own, Option.getD_some, started,
        united, List.nil_append, bind, Except.bind, pure, Except.pure]
    refine ⟨t.put place (.map (entries.map fun e => (atomAt nodes e.1, e.2))), ?_, ?_, ?_⟩
    · simp only [fill, present, Node.tag, filled, bind, Except.bind, pure, Except.pure]
    · rw [← stands]
      refine onward.put_done ?_ ?_
      · intro items is
        simp [stands] at is
      · intro others is e member
        rw [stands] at is
        cases is
        obtain ⟨entry, present, rfl⟩ := List.mem_map.mp member
        exact met entry present
    · have nearer : Follows (low + 1) s t :=
        ⟨follows.met, fun q waits => (follows.pending q waits).imp id (by omega)⟩
      exact nearer.trans (follows_put (low + 1) t _ (by rw [onward.size]; exact inside))

/-- Filling the collections of a round. -/
theorem fillAll_progress (tree : IsTree nodes) (places : List Nat)
    (progress : Progress nodes places s) (low_le : ∀ p ∈ places, low ≤ p) :
    ∃ t, s.fillAll places = .ok t ∧ Progress nodes [] t ∧ Follows (low + 1) s t := by
  induction places generalizing s with
  | nil => exact ⟨s, rfl, progress, .refl _ s⟩
  | cons p places inductionHypothesis =>
    obtain ⟨t, filled, onward, follows⟩ :=
      fill_progress low tree progress (low_le p (List.mem_cons_self ..))
    obtain ⟨u, rest, last, further⟩ :=
      inductionHypothesis onward fun q member => low_le q (List.mem_cons_of_mem _ member)
    exact ⟨u, by simp only [fillAll, filled, bind, Except.bind, rest], last, follows.trans further⟩

/-- All rounds end before the bound: what waits in a round lies behind something that waited in
the one before. -/
theorem settle_progress (tree : IsTree nodes) (fuel : Nat) (progress : Progress nodes [] s)
    (behind : ∀ p ∈ s.pending, low ≤ p) (enough : nodes.size ≤ low + fuel) :
    ∃ t, s.settle fuel = .ok t ∧ Progress nodes [] t ∧ t.pending = [] ∧
      ∀ q, s.contentAt? q ≠ none → t.contentAt? q ≠ none := by
  induction fuel generalizing s low with
  | zero =>
    refine ⟨s, rfl, progress, ?_, fun q met => met⟩
    refine List.eq_nil_iff_forall_not_mem.mpr fun p waits => ?_
    have inside := (progress.waiting p (.inl waits)).1
    have := behind p waits
    omega
  | succ fuel inductionHypothesis =>
    by_cases ended : s.pending = []
    · exact ⟨s, by simp [settle, ended], progress, ended, fun q met => met⟩
    have round : Progress nodes s.pending.reverse { s with pending := [] } := by
      refine ⟨progress.nodes_eq, progress.bound, progress.size, ?_, ?_, progress.closed⟩
      · intro p inside
        rcases progress.content p inside with none | stands | waiting | left
        · exact .inl none
        · exact .inr (.inl stands)
        · exact .inr (.inr (.inr (List.mem_reverse.mpr waiting)))
        · exact absurd left (List.not_mem_nil)
      · rintro p (present | left)
        · exact absurd present (List.not_mem_nil)
        · exact progress.waiting p (.inl (List.mem_reverse.mp left))
    obtain ⟨t, filled, onward, follows⟩ := fillAll_progress low tree s.pending.reverse round
      fun p member => behind p (List.mem_reverse.mp member)
    obtain ⟨u, settled, last, done, met⟩ := inductionHypothesis (low + 1) onward
      (fun q waits => by
        rcases follows.pending q waits with before | behind
        · exact absurd before (List.not_mem_nil)
        · exact behind)
      (by omega)
    refine ⟨u, ?_, last, done, fun q before => met q (follows.met q before)⟩
    have waits : s.pending.isEmpty = false := by simpa using ended
    simp only [settle, waits, Bool.false_eq_true, if_false, filled, bind, Except.bind, settled]

end Reading

/-- The value at a place of a tree, down to a depth. -/
def treeValue (nodes : Array Node) : Nat → Nat → Value
  | 0, _ => .null
  | depth + 1, place =>
    match standing nodes place with
    | .atom value => value
    | .list items => .list (items.map (treeValue nodes depth))
    | .map entries => .map (entries.map fun e => (e.1, treeValue nodes depth e.2))
    | _ => .null

namespace Reading

variable {nodes : Array Node} {s : Reading}

/-- When nothing waits, what was met is what it stands for. -/
theorem Progress.content_of_done {place : Nat} (progress : Progress nodes [] s)
    (done : s.pending = []) (met : s.contentAt? place ≠ none) :
    place < nodes.size ∧ s.contentAt? place = some (standing nodes place) := by
  have inside : place < nodes.size := by
    rw [← progress.size]
    by_contra outside
    exact met (by simp [contentAt?, Array.getElem?_eq_none (Nat.le_of_not_lt outside)])
  refine ⟨inside, ?_⟩
  rcases progress.content place inside with unmet | stands | waiting | left
  · exact absurd unmet met
  · exact stands
  · simp [done] at waiting
  · simp at left

/-- Places that each unfold into their value unfold into their values. -/
theorem unfoldAll_eq (depth : Nat) (around items : List Nat)
    (each : ∀ q ∈ items, s.unfold depth around q = (treeValue nodes depth q, [])) :
    s.unfoldAll depth around items = (items.map (treeValue nodes depth), []) := by
  induction items with
  | nil => simp [unfoldAll]
  | cons item items inductionHypothesis =>
    have first := each item (List.mem_cons_self ..)
    have others := inductionHypothesis fun q member => each q (List.mem_cons_of_mem _ member)
    simp [unfoldAll, first, others]

/-- A place of a finished tree unfolds into its value: no way leads back to what is around it. -/
theorem unfold_tree (tree : IsTree nodes) (progress : Progress nodes [] s) (done : s.pending = [])
    (depth place : Nat) (around : List Nat) (before : ∀ p ∈ around, p < place)
    (met : s.contentAt? place ≠ none) :
    s.unfold depth around place = (treeValue nodes depth place, []) := by
  induction depth generalizing place around with
  | zero => simp [unfold, treeValue]
  | succ depth inductionHypothesis =>
    obtain ⟨inside, holds⟩ := progress.content_of_done done met
    have free : around.contains place = false := by
      by_contra again
      have present : place ∈ around := by simpa using again
      exact Nat.lt_irrefl place (before place present)
    have deeper (q : Nat) (later : place < q) (metThere : s.contentAt? q ≠ none) :
        s.unfold depth (place :: around) q = (treeValue nodes depth q, []) := by
      refine inductionHypothesis q (place :: around) (fun p present => ?_) metThere
      rcases List.mem_cons.mp present with rfl | outer
      · exact later
      · exact Nat.lt_trans (before p outer) later
    obtain ⟨lists, maps⟩ := progress.closed place inside holds
    cases tree place inside with
    | atom node found isAtom =>
      simp only [unfold, free, Bool.false_eq_true, if_false, holds, treeValue,
        standing_atom found isAtom]
    | list items found later =>
      have stands := standing_list found
      have inner := unfoldAll_eq depth (place :: around) items fun q member =>
        deeper q (later q member).1 (lists items stands q member)
      simp only [unfold, free, Bool.false_eq_true, if_false, holds, treeValue, stands, inner, tied,
        List.isEmpty_nil, if_true]
    | map entries found later keys apart =>
      have stands := standing_map found
      have inner := unfoldAll_eq depth (place :: around) (entries.map Prod.snd) fun q member => by
        obtain ⟨e, present, rfl⟩ := List.mem_map.mp member
        exact deeper e.2 (later e present).2.1
          (maps _ stands (atomAt nodes e.1, e.2) (List.mem_map.mpr ⟨e, present, rfl⟩))
      rw [List.map_map] at inner
      simp only [unfold, free, Bool.false_eq_true, if_false, holds, treeValue, stands, List.map_map,
        Function.comp_def, inner, tied, List.isEmpty_nil, if_true, List.zip_map']

end Reading

/-- A document that is a tree has the value that its nodes stand for. -/
theorem Document.value_tree (nodes : Array Node) (root : Nat) (tree : IsTree nodes)
    (inside : root < nodes.size) :
    Document.value { nodes, root } = .ok (treeValue nodes (nodes.size + 1) root) := by
  have blank (q : Nat) : (Document.reading { nodes, root }).contentAt? q = none := by
    simp only [Reading.contentAt?, reading, Array.getElem?_replicate]
    split_ifs <;> rfl
  have begun : Reading.Progress nodes [] (Document.reading { nodes, root }) := by
    refine ⟨rfl, ?_, by simp [reading], fun p _ => .inl (blank p), ?_, ?_⟩
    · have square : 0 < (Document.references { nodes, root } + 2) ^ 2 := Nat.pow_pos (by omega)
      show 1 ≤ 3 * (Document.references { nodes, root } + 2) ^ 2
      omega
    · simp [reading]
    · intro p _ holds
      simp [blank] at holds
  obtain ⟨s, started, onward, -, met⟩ :=
    Reading.start_progress 0 tree begun inside (Nat.zero_le root)
  obtain ⟨t, settled, last, done, stays⟩ := Reading.settle_progress 0 tree
    (nodes.size + 1) onward (fun p _ => Nat.zero_le p) (by omega)
  have unfolded := Reading.unfold_tree tree last done (nodes.size + 1) root [] (by simp)
    (stays root met)
  simp only [value, started, settled, unfolded, bind, Except.bind, pure, Except.pure]

end TypedSheets.Yaml
