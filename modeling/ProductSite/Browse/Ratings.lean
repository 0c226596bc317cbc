/- Module: ProductSite/Browse/Ratings
   source: backend/app/models/kits.py, backend/app/routes/kit_routes.py,
     backend/app/routes/inventory_routes.py, backend/app/routes/purchase_routes.py
   digest: The rounded average of a loaded kit and the average of the statements are the same iff
     the average has no second decimal. -/

import Mathlib.Data.Rat.Floor
import Mathlib.Tactic.Linarith
import ProductSite.Browse.Kits

set_option autoImplicit false
set_option relaxedAutoImplicit false

namespace ProductSite.Browse.Ratings

open ProductSite.Foundation.Floats (roundHalfEven roundHalfEven_near)
open ProductSite.Foundation.Listing
open ProductSite.Backend.Models
open ProductSite.Backend.Listings
open ProductSite.Backend.Requests (shelfOnly)
open ProductSite.Browse.Kits (plainPlatform sandTray)

section Rounding

/-- `round(x, 1)` in exact arithmetic. -/
def roundExactly (x : ℚ) : ℚ := roundHalfEven (10 * x) / 10

/-- The platform rounds to a multiple of a tenth that is as near as any. -/
structure RoundsTenths (platform : Platform) : Prop where
  tenths : ∀ x, ∃ n : ℤ, 10 * platform.roundTenth x = n
  near : ∀ x, |10 * platform.roundTenth x - 10 * x| ≤ 1 / 2

/-- A value is kept exactly if it is a multiple of a tenth. -/
private theorem RoundsTenths.roundTenth_eq_iff {platform : Platform}
    (rounds : RoundsTenths platform) (x : ℚ) : platform.roundTenth x = x ↔ ∃ n : ℤ, 10 * x = n := by
  constructor
  · intro kept
    obtain ⟨n, tenth⟩ := rounds.tenths x
    exact ⟨n, by rw [← tenth, kept]⟩
  · rintro ⟨n, whole⟩
    obtain ⟨m, tenth⟩ := rounds.tenths x
    have near := rounds.near x
    rw [tenth, whole] at near
    have close : |m - n| < 1 := by
      have less : |(m : ℚ) - n| < 1 := lt_of_le_of_lt near (by norm_num)
      exact_mod_cast less
    have same : m = n := by
      have zero := Int.abs_lt_one_iff.mp close
      omega
    rw [same, ← whole] at tenth
    linarith

end Rounding

section Averages

variable {platform : Platform} {db : Database} {kit : Kit}

/-- The average of the ratings has at most one decimal. -/
def OneDecimal (db : Database) (kit : Kit) : Prop :=
  ((reviewCount db kit : Nat) : ℤ) ∣ 10 * ((reviewsOf db kit).map Review.rating).sum

instance (db : Database) (kit : Kit) : Decidable (OneDecimal db kit) :=
  inferInstanceAs (Decidable (_ ∣ _))

/-- The platform with a database that makes of an average the exact one. -/
def withExactAverages (platform : Platform) : Platform := { platform with databaseAverage := id }

/-- The two averages of a kit are one, and so are the filters that use them. -/
structure RatingsAgree (platform : Platform) (db : Database) (kit : Kit) : Prop where
  value : averageRating platform db kit = exactAverage db kit
  threshold : ∀ loaded queried, averageRating platform db kit = some loaded →
    exactAverage db kit = some queried → ∀ rating : ℚ, rating ≤ loaded ↔ rating ≤ queried
  filters : reviewsOf db kit ≠ [] → ∀ kitArgs rowArgs, kitArgs.nonempty "locations" = none →
    floatArg platform kitArgs "min_rating" = floatArg platform rowArgs "rating" →
      keptKit platform db kitArgs kit = ratingFilter (withExactAverages platform) db rowArgs kit

private theorem averageRating_eq_iff (rounds : RoundsTenths platform) :
    averageRating platform db kit = exactAverage db kit ↔ OneDecimal db kit := by
  unfold averageRating exactAverage OneDecimal reviewCount
  split
  · rename_i none
    rw [none]
    simp
  · rename_i reviewed
    have count : ((reviewsOf db kit).length : ℚ) ≠ 0 := by
      simpa using reviewed
    rw [Option.map_some, Option.some.injEq, rounds.roundTenth_eq_iff, dvd_def]
    refine exists_congr fun n => ?_
    rw [← mul_div_assoc, div_eq_iff count, mul_comm (n : ℚ)]
    exact_mod_cast Iff.rfl

/-- Where the averages are one, the filters are, for a kit with reviews. -/
private theorem filters_eq (same : averageRating platform db kit = exactAverage db kit)
    (reviewed : reviewsOf db kit ≠ []) {kitArgs rowArgs : Query}
    (anywhere : kitArgs.nonempty "locations" = none)
    (asked : floatArg platform kitArgs "min_rating" = floatArg platform rowArgs "rating") :
    keptKit platform db kitArgs kit =
      ratingFilter (withExactAverages platform) db rowArgs kit := by
  have average : ∃ value, exactAverage db kit = some value := by
    unfold exactAverage
    rw [if_neg reviewed]
    exact ⟨_, rfl⟩
  obtain ⟨value, given⟩ := average
  have queried : queriedAverage (withExactAverages platform) db kit = some value := by
    rw [queriedAverage, given]
    rfl
  have read : floatArg (withExactAverages platform) rowArgs "rating" =
      floatArg platform rowArgs "rating" := rfl
  rw [keptKit, ratingFilter, anywhere, asked, same, given, queried, read]
  cases floatArg platform rowArgs "rating" <;> simp

end Averages

/-- The rounded average of a kit is the exact one, and every threshold is passed by both or by
neither, if and only if the number of reviews divides ten times the sum of the ratings. -/
theorem ratings_agree_iff (platform : Platform) (rounds : RoundsTenths platform) (db : Database)
    (kit : Kit) : RatingsAgree platform db kit ↔ OneDecimal db kit := by
  rw [← averageRating_eq_iff rounds]
  constructor
  · exact RatingsAgree.value
  · intro same
    refine ⟨same, ?_, ?_⟩
    · intro loaded queried first second rating
      rw [same, second, Option.some.injEq] at first
      rw [first]
    · intro reviewed kitArgs rowArgs anywhere asked
      exact filters_eq same reviewed anywhere asked

/-- The platform whose arithmetic is exact. -/
def exactPlatform : Platform := { plainPlatform with roundTenth := roundExactly }

theorem roundsTenths_exactPlatform : RoundsTenths exactPlatform where
  tenths := by
    intro x
    refine ⟨roundHalfEven (10 * x), ?_⟩
    change 10 * ((roundHalfEven (10 * x) : ℚ) / 10) = _
    exact mul_div_cancel₀ _ (by norm_num)
  near := by
    intro x
    change |10 * ((roundHalfEven (10 * x) : ℚ) / 10) - 10 * x| ≤ 1 / 2
    rw [mul_div_cancel₀ _ (by norm_num : (10 : ℚ) ≠ 0)]
    exact roundHalfEven_near (10 * x)

/-- The sample shop with two reviews of five stars for the tray, and a third one. -/
def threeReviews (third : Int) : Database :=
  { (shelfOnly 3).db with
    reviews := ⟨[⟨1, 1, 1, 5, none, none, []⟩, ⟨2, 1, 2, 5, none, none, []⟩,
      ⟨3, 1, 3, third, none, none, []⟩], by simp, by simp⟩ }

theorem five_stars_agree : RatingsAgree exactPlatform (threeReviews 5) sandTray := by
  refine (ratings_agree_iff exactPlatform roundsTenths_exactPlatform (threeReviews 5)
    sandTray).mpr ?_
  decide

/-- Two reviews of five stars and one of four: the loaded kit is rated 4.7, the statements rate
it fourteen thirds, and a minimum of 4.7 keeps the kit and drops its inventory rows. -/
theorem rounded_rating_passes :
    averageRating exactPlatform (threeReviews 4) sandTray = some (47 / 10) ∧
      exactAverage (threeReviews 4) sandTray = some (14 / 3) ∧
      keptKit exactPlatform (threeReviews 4) [("min_rating", "4.7")] sandTray = true ∧
      ratingFilter exactPlatform (threeReviews 4) [("rating", "4.7")] sandTray = false ∧
      ¬ RatingsAgree exactPlatform (threeReviews 4) sandTray := by
  have loaded : averageRating exactPlatform (threeReviews 4) sandTray = some (47 / 10) := by
    decide +kernel
  have queried : exactAverage (threeReviews 4) sandTray = some (14 / 3) := by decide +kernel
  have kept : keptKit exactPlatform (threeReviews 4) [("min_rating", "4.7")] sandTray = true := by
    decide +kernel
  have dropped : ratingFilter exactPlatform (threeReviews 4) [("rating", "4.7")] sandTray =
      false := by
    decide +kernel
  refine ⟨loaded, queried, kept, dropped, ?_⟩
  intro agree
  have same : keptKit exactPlatform (threeReviews 4) [("min_rating", "4.7")] sandTray =
      ratingFilter exactPlatform (threeReviews 4) [("rating", "4.7")] sandTray :=
    agree.filters (by decide) _ _ rfl rfl
  rw [kept, dropped] at same
  cases same

end ProductSite.Browse.Ratings
