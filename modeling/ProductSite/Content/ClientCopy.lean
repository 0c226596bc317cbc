/- Module: ProductSite/Content/ClientCopy
   source: react-router-bootstrap-app/src/App.js,
     react-router-bootstrap-app/src/components/EditableField.jsx,
     react-router-bootstrap-app/src/components/EditableImage.jsx
   digest: A saved text gets into the content of the client only if it was there before: the
     components pass a function where the App's setter takes a key. -/

import ProductSite.Storefront.EditableContent

set_option autoImplicit false
set_option relaxedAutoImplicit false

namespace ProductSite.Content.ClientCopy

open ProductSite.Foundation.Wire (Keyspace)
open ProductSite.Storefront.EditableContent

/-- The texts are those of the content, with the value under the key. -/
def Updates (texts : String → Option String) (content : Content) (key value : String) : Prop :=
  ∀ name, texts name = if name = key then some value else lookup content name

/-- The content and its copy in the session storage have the value under the key, and are as
before under every other. -/
structure Saved (before after : Client) (key value : String) : Prop where
  content : Updates (lookup after.content) before.content key value
  cache : ∃ stored, after.contentCache = some stored ∧
    Updates stored.get before.content key value

section Setters

variable {client : Client} {source key value : String}

/-- With the App's setter, the function itself becomes the name of a property. -/
private theorem lookup_provided (name : String) :
    lookup (providedSetContent (contentUpdater source key value) client).content name =
      if name = source then none else lookup client.content name := by
  change (Option.join (if name = source then some none else client.content.get name)) = _
  split <;> rfl

/-- The copy holds what the content holds. -/
private theorem saved_provided_iff :
    Saved client (providedSetContent (contentUpdater source key value) client) key value ↔
      lookup client.content key = some value ∧ lookup client.content source = none := by
  have copied : (providedSetContent (contentUpdater source key value) client).contentCache =
      some (stringify (providedSetContent (contentUpdater source key value) client).content) := rfl
  have stored : Saved client (providedSetContent (contentUpdater source key value) client) key
      value ↔ Updates (lookup (providedSetContent (contentUpdater source key value)
        client).content) client.content key value := by
    constructor
    · exact Saved.content
    · intro updates
      exact ⟨updates, _, copied, updates⟩
  rw [stored]
  simp only [Updates, lookup_provided]
  constructor
  · intro updates
    have here := updates key
    have there := updates source
    rw [if_pos rfl] at here there
    have other : ¬ key = source := by
      intro same
      rw [if_pos same] at here
      cases here
    rw [if_neg other] at here
    rw [if_neg (fun same => other same.symm)] at there
    exact ⟨here, there.symm⟩
  · rintro ⟨held, free⟩ name
    by_cases here : name = key
    · subst here
      have other : ¬ name = source := by
        intro same
        rw [same, free] at held
        cases held
      rw [if_neg other, if_pos rfl, held]
    · rw [if_neg here]
      split
      · rename_i printed
        rw [printed, free]
      · rfl

private theorem saveContent_eq {setContent : SetContent} {post : Post} {text : String}
    (differs : value ≠ text) (succeeds : (post ⟨.value key, some value⟩).fetchOk = true) :
    saveContent setContent post source key text value client =
      setContent (contentUpdater source key value) client := by
  rw [saveContent, savedBody, if_neg differs]
  simp only
  rw [if_pos succeeds]

end Setters

/-- A text that differs from the one shown and that the server has accepted is in the content of
the client and in its copy, with all else as before, if and only if it was there already and the
source of the function that is passed to the setter is no key of the content. The same holds for
an image. -/
theorem saved_in_content_iff (post : Post) (client : Client)
    (fieldSource imageSource key defaultText value : String)
    (differs : value ≠ shownText client.content key defaultText)
    (succeeds : (post ⟨.value key, some value⟩).fetchOk = true) :
    (Saved client (saveContent providedSetContent post fieldSource key
          (shownText client.content key defaultText) value client) key value ↔
        lookup client.content key = some value ∧ lookup client.content fieldSource = none) ∧
      (Saved client (updateImage providedSetContent imageSource key value client) key value ↔
        lookup client.content key = some value ∧ lookup client.content imageSource = none) := by
  rw [saveContent_eq differs succeeds]
  exact ⟨saved_provided_iff, saved_provided_iff⟩

/-- The content with one title, and a server that accepts every edit. -/
def titled (title : String) : Client := ⟨Keyspace.empty.set "title" (some title), none, none⟩

def acceptAll : Post := fun body => .ok 200 ⟨body.field.get.getD "", body.value.getD ""⟩

/-- An empty title is shown as the default text; saving it as empty changes nothing. -/
theorem empty_title_is_saved :
    Saved (titled "") (saveContent providedSetContent acceptAll "prev => updated" "title"
      (shownText (titled "").content "title" "Welcome") "" (titled "")) "title" "" := by
  refine (saved_in_content_iff acceptAll (titled "") "prev => updated" "prev => updated" "title"
    "Welcome" "" (by decide) rfl).1.mpr ?_
  exact ⟨by decide, by decide⟩

/-- The title is saved, but the content and its copy still have the old one. -/
theorem saved_title_is_not_shown :
    lookup (saveContent providedSetContent acceptAll "prev => updated" "title" "Old" "New"
        (titled "Old")).content "title" = some "Old" ∧
      ((saveContent providedSetContent acceptAll "prev => updated" "title" "Old" "New"
        (titled "Old")).contentCache.bind (fun stored => stored.get "title")) = some "Old" ∧
      lookup (updateImage providedSetContent "prev => updated" "title" "New"
        (titled "Old")).content "title" = some "Old" ∧
      ¬ Saved (titled "Old") (saveContent providedSetContent acceptAll "prev => updated" "title"
        "Old" "New" (titled "Old")) "title" "New" ∧
      ¬ Saved (titled "Old") (updateImage providedSetContent "prev => updated" "title" "New"
        (titled "Old")) "title" "New" := by
  have unchanged : lookup (saveContent providedSetContent acceptAll "prev => updated" "title"
      "Old" "New" (titled "Old")).content "title" = some "Old" := by decide
  have image : lookup (updateImage providedSetContent "prev => updated" "title" "New"
      (titled "Old")).content "title" = some "Old" := by decide
  refine ⟨unchanged, by decide, image, ?_, ?_⟩
  · intro saved
    have new := saved.content "title"
    rw [unchanged] at new
    exact absurd new (by decide)
  · intro saved
    have new := saved.content "title"
    rw [image] at new
    exact absurd new (by decide)

end ProductSite.Content.ClientCopy
