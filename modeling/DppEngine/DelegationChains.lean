import Mathlib.Data.List.Basic

/-! Authority passed down from one anchor through intermediaries.

`issues a c` says that `a` vouched for `c`. A path from `c` names who vouched for it, who vouched
for that one, and so on, up to somebody the anchor itself answers for. A climb is a path that
stops as soon as the anchor's turn comes. -/
namespace DelegationChains

variable {α : Type*} (issues : α → α → Prop) (stop anchored : α → Prop)

inductive Path : α → List α → Prop where
  | arrived {c : α} : anchored c → Path c []
  | climbed {a c : α} {p : List α} : issues a c → Path a p → Path c (a :: p)

inductive Climb : α → List α → Prop where
  | arrived {c : α} : anchored c → Climb c []
  | climbed {a c : α} {p : List α} : ¬ stop c → issues a c → Climb a p → Climb c (a :: p)

variable {issues stop anchored} {issues' : α → α → Prop} {c : α} {p q : List α}

theorem Climb.path (h : Climb issues stop anchored c p) : Path issues anchored c p := by
  induction h with
  | arrived hc => exact .arrived hc
  | climbed _ ha _ ih => exact .climbed ha ih

theorem Path.imp (himp : ∀ a c, a ∈ p → issues a c → issues' a c)
    (h : Path issues anchored c p) : Path issues' anchored c p := by
  induction h with
  | arrived hc => exact .arrived hc
  | climbed ha _ ih =>
    refine .climbed (himp _ _ List.mem_cons_self ha) (ih fun a c hmem => ?_)
    exact himp a c (List.mem_cons_of_mem _ hmem)

theorem Climb.imp (himp : ∀ a c, a ∈ p → issues a c → issues' a c)
    (h : Climb issues stop anchored c p) : Climb issues' stop anchored c p := by
  induction h with
  | arrived hc => exact .arrived hc
  | climbed hs ha _ ih =>
    refine .climbed hs (himp _ _ List.mem_cons_self ha) (ih fun a c hmem => ?_)
    exact himp a c (List.mem_cons_of_mem _ hmem)

theorem Path.arrives (h : Path issues anchored c p) : ∃ a ∈ c :: p, anchored a := by
  induction h with
  | arrived hc => exact ⟨_, List.mem_cons_self, hc⟩
  | climbed _ _ ih =>
    obtain ⟨a, ha, hanchored⟩ := ih
    exact ⟨a, List.mem_cons_of_mem _ ha, hanchored⟩

theorem Climb.arrives (h : Climb issues stop anchored c p) : ∃ a ∈ c :: p, anchored a :=
  h.path.arrives

/-- Where nobody short of the anchor has two vouchers, every path starts with the climb. -/
theorem Climb.isPrefix (hstop : ∀ c, anchored c → stop c)
    (huniq : ∀ a b c, issues a c → issues b c → a = b)
    (h : Climb issues stop anchored c p) (hq : Path issues anchored c q) : p <+: q := by
  induction h generalizing q with
  | arrived _ => exact List.nil_prefix
  | climbed hs ha _ ih =>
    cases hq with
    | arrived hc => exact absurd (hstop _ hc) hs
    | climbed hb hq =>
      cases huniq _ _ _ ha hb
      exact List.prefix_cons_inj _ |>.mpr (ih hq)

end DelegationChains
