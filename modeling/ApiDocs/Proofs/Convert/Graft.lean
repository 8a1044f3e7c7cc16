import ApiDocs.Convert.Outline
import ApiDocs.Proofs.Model.Store

/-!
# Outlines in a model

Grafting attaches the declarations of outlines to a model, one after the other.  Each is followed
by its members, so the outline of a declaration occupies an interval of identities, and the
descendants of a declaration are the identities that follow its own.
-/

namespace ApiDocs.Convert

mutual

/-- The tree of an entry; where reading failed there is none. -/
def Entry.trees : Entry → List Tree
  | .failed _ => []
  | .declared declaration _ members => [.node declaration (treesOf members)]

def treesOf : List Entry → List Tree
  | [] => []
  | entry :: entries => entry.trees ++ treesOf entries

end

theorem treesOf_declared
    (declaration : Declaration) (origin : Origin) (members entries : List Entry) :
    treesOf (.declared declaration origin members :: entries) =
      .node declaration (treesOf members) :: treesOf entries := by
  simp [treesOf, Entry.trees]

theorem treesOf_eq_flatMap (entries : List Entry) :
    treesOf entries = entries.flatMap Entry.trees := by
  induction entries with
  | nil =>
      rw [treesOf]
      rfl
  | cons entry entries inductionHypothesis =>
      rw [treesOf, inductionHypothesis, List.flatMap_cons]

mutual

/-- The model with an entry attached below a parent, before its members. -/
def graftEntry (model : Model) (parent : Nat) : Entry → Model
  | .failed _ => model
  | .declared declaration _ members => graft (model.attach parent declaration) model.size members

def graft (model : Model) (parent : Nat) : List Entry → Model
  | [] => model
  | entry :: entries => graft (graftEntry model parent entry) parent entries

end

/-- Entries occupy the identities from one on up to another; those in between that belong to the
entries themselves, and not to their members, are listed. -/
inductive Occupies (model : Model) : List Entry → Nat → List Nat → Nat → Prop where
  | nil (start : Nat) : Occupies model [] start [] start
  | failed {entries start keys stop} (failure : Failure) :
      Occupies model entries start keys stop →
      Occupies model (.failed failure :: entries) start keys stop
  | declared {declaration members entries start middle keys stop} (origin : Origin) :
      model.declaration? start = some declaration →
      Occupies model members (start + 1) (model.children start) middle →
      Occupies model entries middle keys stop →
      Occupies model (.declared declaration origin members :: entries) start (start :: keys) stop

namespace Occupies

variable {model other : Model} {entries : List Entry} {start stop : Nat} {keys : List Nat}

theorem le (occupies : Occupies model entries start keys stop) : start ≤ stop := by
  induction occupies with
  | nil start => exact Nat.le_refl start
  | failed failure _ inductionHypothesis => exact inductionHypothesis
  | declared origin _ _ _ membersBound entriesBound => omega

theorem key_bounds (occupies : Occupies model entries start keys stop) :
    ∀ key ∈ keys, start ≤ key ∧ key < stop := by
  induction occupies with
  | nil start =>
      intro key member
      cases member
  | failed failure _ inductionHypothesis =>
      exact inductionHypothesis
  | declared origin _ members rest _ inductionHypothesis =>
      have membersBound := members.le
      have restBound := rest.le
      intro key member
      rcases List.mem_cons.mp member with rfl | later
      · omega
      · have bounds := inductionHypothesis key later
        omega

/-- What an outline occupies depends on nothing outside of its interval. -/
theorem congr (occupies : Occupies model entries start keys stop)
    (same : ∀ key, start ≤ key → key < stop →
      other.declaration? key = model.declaration? key ∧ other.children key = model.children key) :
    Occupies other entries start keys stop := by
  induction occupies with
  | nil start =>
      exact Occupies.nil start
  | failed failure _ inductionHypothesis =>
      exact Occupies.failed failure (inductionHypothesis same)
  | @declared declaration members entries start middle keys stop origin declared membersOccupy
      entriesOccupy membersHypothesis entriesHypothesis =>
      have membersBound := membersOccupy.le
      have entriesBound := entriesOccupy.le
      obtain ⟨sameDeclaration, sameChildren⟩ := same start (Nat.le_refl start) (by omega)
      apply Occupies.declared origin (sameDeclaration.trans declared)
      · rw [sameChildren]
        exact membersHypothesis fun key after before => same key (by omega) (by omega)
      · exact entriesHypothesis fun key after before => same key (by omega) (by omega)

/-- The trees that are read off an outline's interval are those of the outline. -/
theorem treeTo (occupies : Occupies model entries start keys stop) {depth : Nat}
    (deep : stop ≤ start + depth) :
    keys.map (model.treeTo depth) = treesOf entries := by
  induction occupies generalizing depth with
  | nil start =>
      rw [treesOf]
      rfl
  | failed failure _ inductionHypothesis =>
      rw [treesOf, Entry.trees, List.nil_append]
      exact inductionHypothesis deep
  | declared origin declared membersOccupy entriesOccupy membersHypothesis entriesHypothesis =>
      have membersBound := membersOccupy.le
      have entriesBound := entriesOccupy.le
      cases depth with
      | zero => omega
      | succ depth =>
          rw [List.map_cons, Model.treeTo, declared, Option.getD_some,
            membersHypothesis (by omega), entriesHypothesis (by omega), treesOf_declared]

/-- The descendants that are read off an outline's interval fill it. -/
theorem descendantsTo (occupies : Occupies model entries start keys stop) {depth : Nat}
    (deep : stop ≤ start + depth) :
    (keys.flatMap fun key => key :: model.descendantsTo depth key) =
      List.range' start (stop - start) := by
  induction occupies generalizing depth with
  | nil start =>
      simp
  | failed failure _ inductionHypothesis =>
      exact inductionHypothesis deep
  | @declared declaration members entries start middle keys stop origin declared membersOccupy
      entriesOccupy membersHypothesis entriesHypothesis =>
      have membersBound := membersOccupy.le
      have entriesBound := entriesOccupy.le
      cases depth with
      | zero => omega
      | succ depth =>
          have length : stop - start = (middle - (start + 1) + 1) + (stop - middle) := by omega
          have next : middle = start + (middle - (start + 1) + 1) := by omega
          have joined :
              List.range' start (middle - (start + 1) + 1) ++
                  List.range' (start + (middle - (start + 1) + 1)) (stop - middle) =
                List.range' start (middle - (start + 1) + 1 + (stop - middle)) :=
            List.range'_append_1
          rw [List.flatMap_cons, Model.descendantsTo, membersHypothesis (by omega),
            entriesHypothesis (by omega), ← List.range'_succ, length, ← joined, ← next]

theorem children_bounds (occupies : Occupies model entries start keys stop) :
    ∀ parent, start ≤ parent → parent < stop →
      ∀ child ∈ model.children parent, parent < child ∧ child < stop := by
  induction occupies with
  | nil start =>
      intro parent after before
      omega
  | failed failure _ inductionHypothesis =>
      exact inductionHypothesis
  | @declared declaration members entries start middle keys stop origin declared membersOccupy
      entriesOccupy membersHypothesis entriesHypothesis =>
      have entriesBound := entriesOccupy.le
      intro parent after before child member
      by_cases isFirst : parent = start
      · rw [isFirst] at member
        have bounds := membersOccupy.key_bounds child member
        omega
      · by_cases inMembers : parent < middle
        · have bounds := membersHypothesis parent (by omega) inMembers child member
          omega
        · exact entriesHypothesis parent (by omega) before child member

end Occupies

/-! ## Grafting -/

theorem graft_declared
    (model : Model) (parent : Nat) (declaration : Declaration) (origin : Origin)
    (members entries : List Entry) :
    graft model parent (.declared declaration origin members :: entries) =
      graft (graft (model.attach parent declaration) model.size members) parent entries := by
  rw [graft, graftEntry]

theorem graft_failed (model : Model) (parent : Nat) (failure : Failure) (entries : List Entry) :
    graft model parent (.failed failure :: entries) = graft model parent entries := by
  rw [graft, graftEntry]

theorem graft_append (model : Model) (parent : Nat) (first second : List Entry) :
    graft model parent (first ++ second) = graft (graft model parent first) parent second := by
  induction first generalizing model with
  | nil =>
      rw [List.nil_append, graft]
  | cons entry entries inductionHypothesis =>
      rw [List.cons_append, graft, graft, inductionHypothesis]

/-- What grafting below a parent does: new children at its end, the outline of which occupies new
identities, and nothing else. -/
structure Grafted (model : Model) (parent : Nat) (entries : List Entry) (grafted : Model)
    (keys : List Nat) : Prop where
  size_le : model.size ≤ grafted.size
  declaration? : ∀ key < model.size, grafted.declaration? key = model.declaration? key
  children : ∀ key < model.size,
    grafted.children key = if key = parent then model.children key ++ keys else model.children key
  occupies : Occupies grafted entries model.size keys grafted.size

theorem exists_grafted (model : Model) {parent : Nat} (inside : parent < model.size)
    (entries : List Entry) :
    ∃ keys, Grafted model parent entries (graft model parent entries) keys := by
  match entries with
  | [] =>
      refine ⟨[], ?_⟩
      rw [graft]
      exact ⟨Nat.le_refl _, fun _ _ => rfl, by simp, Occupies.nil model.size⟩
  | .failed failure :: entries =>
      obtain ⟨keys, grafted⟩ := exists_grafted model inside entries
      refine ⟨keys, ?_⟩
      rw [graft_failed]
      exact ⟨grafted.size_le, grafted.declaration?, grafted.children,
        Occupies.failed failure grafted.occupies⟩
  | .declared declaration origin members :: entries =>
      have sizeAttach := model.size_attach parent declaration
      have isInside : model.size < (model.attach parent declaration).size := by omega
      obtain ⟨memberKeys, inner⟩ :=
        exists_grafted (model.attach parent declaration) isInside members
      have sizeInner := inner.size_le
      have stillInside :
          parent < (graft (model.attach parent declaration) model.size members).size := by omega
      obtain ⟨keys, outer⟩ := exists_grafted _ stillInside entries
      have sizeOuter := outer.size_le
      rw [graft_declared]
      refine ⟨model.size :: keys, ?_, ?_, ?_, ?_⟩
      · omega
      · intro key old
        rw [outer.declaration? key (by omega), inner.declaration? key (by omega),
          Model.declaration?_attach, if_neg (Nat.ne_of_lt old)]
      · intro key old
        rw [outer.children key (by omega), inner.children key (by omega),
          if_neg (Nat.ne_of_lt old), Model.children_attach model inside]
        split
        · rw [List.append_assoc]
          rfl
        · rfl
      · have notParent : model.size ≠ parent := by omega
        apply Occupies.declared origin _ _ outer.occupies
        · rw [outer.declaration? _ (by omega), inner.declaration? _ isInside,
            Model.declaration?_attach, if_pos rfl]
        · rw [outer.children _ (by omega), if_neg notParent, inner.children _ isInside, if_pos rfl,
            Model.children_attach model inside, if_neg notParent,
            Model.children_of_size_le model (Nat.le_refl _), List.nil_append, ← sizeAttach]
          apply inner.occupies.congr
          intro key after before
          refine ⟨outer.declaration? key before, ?_⟩
          rw [outer.children key before, if_neg (by omega)]

/-- Grafting leaves the readmes of projects alone. -/
theorem readme?_graft
    (model : Model) {key : Nat} (inside : key < model.size) (parent : Nat) (entries : List Entry) :
    (graft model parent entries).readme? key = model.readme? key := by
  match entries with
  | [] => rw [graft]
  | .failed failure :: entries =>
      rw [graft_failed]
      exact readme?_graft model inside parent entries
  | .declared declaration origin members :: entries =>
      have attached : model.size < (model.attach parent declaration).size := by
        rw [Model.size_attach]
        exact Nat.lt_succ_self _
      obtain ⟨_, grafted⟩ := exists_grafted _ attached members
      have still : key < (model.attach parent declaration).size := Nat.lt_trans inside attached
      rw [graft_declared, readme?_graft _ (Nat.lt_of_lt_of_le still grafted.size_le) parent entries,
        readme?_graft _ still model.size members, model.readme?_attach inside]

theorem size_le_graft {model : Model} {parent : Nat} (inside : parent < model.size)
    (entries : List Entry) : model.size ≤ (graft model parent entries).size := by
  obtain ⟨_, grafted⟩ := exists_grafted model inside entries
  exact grafted.size_le

/-- Grafting leaves the parents of older declarations alone. -/
theorem parent?_graft
    (model : Model) {key parent : Nat} (inside : key < model.size)
    (parentInside : parent < model.size) (entries : List Entry) :
    (graft model parent entries).parent? key = model.parent? key := by
  match entries with
  | [] => rw [graft]
  | .failed failure :: entries =>
      rw [graft_failed]
      exact parent?_graft model inside parentInside entries
  | .declared declaration origin members :: entries =>
      have attached : model.size < (model.attach parent declaration).size := by
        rw [Model.size_attach]
        exact Nat.lt_succ_self _
      have grown := size_le_graft attached members
      rw [graft_declared, parent?_graft _ (by omega) (by omega) entries,
        parent?_graft _ (by omega) attached members, Model.parent?_attach,
        if_neg (Nat.ne_of_lt inside)]

end ApiDocs.Convert
