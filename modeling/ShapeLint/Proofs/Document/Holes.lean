import ShapeLint.Proofs.Document.Routes
import ShapeLint.Rule

/-! Documents with a hole: one container around another, down to the place where a value is put. -/
namespace ShapeLint

/-- A container with a hole among its members. -/
inductive Frame where
  | list (identity : Nat) (before after : List Value)
  | mapping (identity : Nat) (before : List (Scalar × Value)) (key : Scalar)
      (after : List (Scalar × Value))

/-- Containers around a hole, the outermost first. -/
abbrev Surface := List Frame

/-- A scalar that is the same as a text is that text. -/
theorem Scalar.eq_text_of_beq {s : String} {key : Scalar} (h : (text s == key) = true) :
    key = text s := by
  cases key with
  | text name => rw [text_beq_text, beq_iff_eq] at h; rw [h]
  | null => contradiction
  | bool b => contradiction
  | int i => contradiction
  | float x => contradiction
  | date d => contradiction

namespace Frame

def fill (v : Value) : Frame → Value
  | list identity before after => .list identity (before ++ v :: after)
  | mapping identity before key after => .mapping identity (before ++ (key, v) :: after)

/-- The step that leads to the hole. -/
def step : Frame → Step
  | list _ before _ => .index before.length
  | mapping _ _ key _ => key.step

/-- The members in front of the hole. -/
def before : Frame → List (Step × Value)
  | list _ before _ => Leaf.numbered before
  | mapping _ before _ _ => Leaf.keyed before

/-- The members behind the hole. -/
def after : Frame → List (Step × Value)
  | list _ before after => (after.zipIdx (before.length + 1)).map fun (x, i) => (.index i, x)
  | mapping _ _ _ after => Leaf.keyed after

variable (frame : Frame) (v w : Value)

theorem members_fill : (frame.fill v).members = frame.before ++ (frame.step, v) :: frame.after := by
  cases frame with
  | list identity before after =>
    simp [fill, Value.members, Leaf.numbered, Frame.before, Frame.step, Frame.after,
      List.zipIdx_append]
  | mapping identity before key after =>
    simp [fill, Value.members, Leaf.keyed, Frame.before, Frame.step, Frame.after]

theorem mem_members_fill : (frame.step, v) ∈ (frame.fill v).members := by
  rw [members_fill]
  simp

theorem keyNames?_fill : (frame.fill v).keyNames? = (frame.fill w).keyNames? := by
  cases frame <;> simp [fill, Value.keyNames?]

theorem isContainer_fill : (frame.fill v).isContainer := by
  cases frame <;> rfl

theorem kindName_fill : (frame.fill v).kindName = (frame.fill w).kindName := by
  cases frame <;> rfl

theorem text?_fill : (frame.fill v).text? = (frame.fill w).text? := by
  cases frame <;> rfl

/-- A text under a key of a container stays if the hole is elsewhere, or if it is filled with the
same text. -/
theorem fieldText_fill {key : String} (h : frame.step ≠ .key key ∨ v.text? = w.text?) :
    ((frame.fill v).field? key).bind Value.text? =
      ((frame.fill w).field? key).bind Value.text? := by
  cases frame with
  | list identity before after => rfl
  | mapping identity before name after =>
    simp only [fill, Value.field?, List.lookup_append, List.lookup_cons]
    cases before.lookup (.text key) with
    | some x => rfl
    | none =>
      by_cases hname : (Scalar.text key == name) = true
      · have hstep : Frame.step (.mapping identity before name after) = .key key := by
          rw [Scalar.eq_text_of_beq hname]
          rfl
        simpa [hname] using h.resolve_left (absurd hstep)
      · simp [hname]

end Frame

namespace Surface

/-- Puts a value into the hole. -/
def fill (c : Surface) (v : Value) : Value := c.foldr (fun frame v => frame.fill v) v

/-- The path to the hole. -/
def path (c : Surface) : Path := c.map Frame.step

theorem leads_fill (c : Surface) (v : Value) : (c.fill v).Leads c.path v := by
  induction c with
  | nil => exact .here v
  | cons frame c ih => exact .step (frame.mem_members_fill (Surface.fill c v)) ih

end Surface

end ShapeLint
