/- Module: ProductSite/Browse/Reloads
   source: react-router-bootstrap-app/src/components/ViewingOptions.jsx,
     react-router-bootstrap-app/src/pages/Cards.jsx
   digest: Each reload of the Cards page reverses the sort direction, so the viewing options
     survive an even number of reloads only. -/

import Mathlib.Algebra.Group.Nat.Even
import Mathlib.Algebra.Ring.Parity
import ProductSite.Storefront.ViewingOptions

set_option autoImplicit false
set_option relaxedAutoImplicit false

namespace ProductSite.Browse.Reloads

open ProductSite.Foundation.Runs
open ProductSite.Storefront.ViewingOptions

variable {R : Type}

/-- Both entries of the storage are those of the filters. -/
def Settled (page : CardsPage R) : Prop :=
  page.storage = ⟨some page.filters, some page.filters.options⟩

private theorem settled_mount (searchQuery : String) (rest : R) (storage : Storage R) :
    Settled (mount searchQuery rest storage) := rfl

private theorem settled_viewingStep (page : CardsPage R) (action : ViewingAction) :
    Settled (viewingStep page action) := rfl

private theorem settled_run {page : CardsPage R} (start : Settled page)
    (actions : List ViewingAction) :
    Settled (run viewingStep page actions) :=
  (along_of_kept (fun t action _ => settled_viewingStep t action) start actions).finish

private theorem toggled_involutive : Function.Involutive toggled := by
  intro direction
  cases direction <;> rfl

private theorem toggled_ne_self (direction : SortDir) : toggled direction ≠ direction := by
  cases direction <;> decide

/-- A page that restores the options that it already has keeps them but for the direction. -/
private theorem options_reload {page : CardsPage R} (settled : Settled page) (searchQuery : String)
    (rest : R) : (reload searchQuery rest page).filters.options =
      { page.filters.options with sortDir := toggled page.filters.options.sortDir } := by
  obtain ⟨filters, storage⟩ := page
  have stored : storage = ⟨some filters, some filters.options⟩ := settled
  subst stored
  -- the saved column is the one shown, so restoring it does not reset the direction
  by_cases size : filters.itemsPerPage = 0
  · simp [reload, mount, restoreEffect, handleSortDirChange, handleFilterChange, Filters.options,
      size]
  · simp [reload, mount, restoreEffect, handleSortDirChange, handleFilterChange, Filters.options,
      size]

private theorem options_reloads {page : CardsPage R} (settled : Settled page) (searchQuery : String)
    (rest : R) (count : Nat) :
    Settled ((reload searchQuery rest)^[count] page) ∧
      ((reload searchQuery rest)^[count] page).filters.options =
        { page.filters.options with sortDir := toggled^[count] page.filters.options.sortDir } := by
  induction count with
  | zero => exact ⟨settled, rfl⟩
  | succ count ih =>
      obtain ⟨before, options⟩ := ih
      rw [Function.iterate_succ_apply', Function.iterate_succ_apply']
      refine ⟨settled_mount _ _ _, ?_⟩
      rw [options_reload before, options]

private theorem toggled_iterate_eq_self_iff (count : Nat) (direction : SortDir) :
    toggled^[count] direction = direction ↔ Even count := by
  rcases Nat.even_or_odd count with even | odd
  · rw [toggled_involutive.iterate_even even]
    exact iff_of_true rfl even
  · rw [toggled_involutive.iterate_odd odd]
    exact iff_of_false (toggled_ne_self direction) (Nat.not_even_iff_odd.mpr odd)

/-- After any viewing actions on a page that was opened with any storage, the viewing options
after a number of reloads are those before if and only if the number is even. -/
theorem options_survive_iff (searchQuery : String) (rest : R) (storage : Storage R)
    (actions : List ViewingAction) (reloads : Nat) :
    ((reload searchQuery rest)^[reloads]
        (run viewingStep (mount searchQuery rest storage) actions)).filters.options =
      (run viewingStep (mount searchQuery rest storage) actions).filters.options ↔
      Even reloads := by
  have settled := settled_run (settled_mount searchQuery rest storage) actions
  rw [(options_reloads settled searchQuery rest reloads).2, ← toggled_iterate_eq_self_iff reloads]
  constructor
  · intro same
    exact congrArg Options.sortDir same
  · intro same
    rw [same]

/-- A first visit without any action: the kits are sorted upwards, and downwards after a
reload. -/
theorem reload_reverses_the_order :
    (mount "" () ⟨none, none⟩).filters.options = ⟨.grid, 12, .name, .asc⟩ ∧
      (reload "" () (mount "" () ⟨none, none⟩)).filters.options = ⟨.grid, 12, .name, .desc⟩ := by
  decide

end ProductSite.Browse.Reloads
