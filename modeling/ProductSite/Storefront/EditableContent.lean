/- Module: ProductSite/Storefront/EditableContent
   source: react-router-bootstrap-app/src/App.js,
     react-router-bootstrap-app/src/components/EditableField.jsx,
     react-router-bootstrap-app/src/components/EditableImage.jsx
   digest: The content that the client holds, the setter that the App hands on, and the two
     components that call it. -/

import ProductSite.Backend.ContentRoutes

set_option autoImplicit false
set_option relaxedAutoImplicit false

namespace ProductSite.Storefront.EditableContent

open ProductSite.Foundation.Wire (Keyspace Reply)
open ProductSite.Backend.ContentRoutes (ContentBody Edit)

/-- An object of texts. A key of it may have the value undefined. -/
abbrev Content := Keyspace (Option String)

/-- `content?.[key]`. -/
def lookup (content : Content) (key : String) : Option String := (content.get key).join

/-- What `JSON.stringify` writes: keys with the value undefined are left out. -/
def stringify (content : Content) : Keyspace String := ⟨lookup content⟩

/-- The state of the App and its two entries of the session storage. -/
structure Client where
  content : Content
  contentCache : Option (Keyspace String)
  forceContentRefetch : Option String

/-- A function of the previous content. Its source is the text that it prints as. -/
structure Updater where
  source : String
  run : Client → Client

/-- What may be passed to `updateContent` as a key. -/
inductive Key where
  | text (value : String)
  | function (updater : Updater)

/-- The name of a property: whatever is no text is printed. -/
def Key.property : Key → String
  | .text value => value
  | .function updater => updater.source

/-- The App's own setter, which takes a key and a value. -/
def updateContent (key : Key) (value : Option String) (client : Client) : Client :=
  let updated := client.content.set key.property value
  { client with content := updated, contentCache := some (stringify updated) }

/-- A setter that is called with an updater as its only argument. -/
abbrev SetContent := Updater → Client → Client

/-- The setter of the context that the App provides. -/
def providedSetContent : SetContent := fun updater => updateContent (.function updater) none

/-- The updater of both components; their sources differ. -/
def contentUpdater (source contentKey value : String) : Updater where
  source := source
  run client :=
    let updated := client.content.set contentKey (some value)
    ⟨updated, some (stringify updated), some "true"⟩

/-- `content?.[contentKey] || defaultText`. -/
def shownText (content : Content) (contentKey defaultText : String) : String :=
  ((lookup content contentKey).filter (fun text => text ≠ "")).getD defaultText

/-- What the server answers to an edit. -/
abbrev Post := ContentBody String → Reply (Edit String)

/-- The body that the Done button sends, unless the text was left as it is. -/
def savedBody (contentKey text newValue : String) : Option (ContentBody String) :=
  if newValue = text then none else some ⟨.value contentKey, some newValue⟩

/-- The Done button of `EditableField`. The page is reloaded afterwards. -/
def saveContent (setContent : SetContent) (post : Post) (source contentKey text newValue : String)
    (client : Client) : Client :=
  match savedBody contentKey text newValue with
  | none => client
  | some body =>
      if (post body).fetchOk then setContent (contentUpdater source contentKey newValue) client
      else client

/-- The choice of an image in `EditableImage`, whatever the server answers. -/
def updateImage (setContent : SetContent) (source contentKey url : String) (client : Client) :
    Client :=
  setContent (contentUpdater source contentKey url) client

end ProductSite.Storefront.EditableContent
