/-
Subscriptions, as far as limits depend on them: the products that an account has
subscribed to, what their metadata says, and how often they are billed.
-/
import ProjectViews.Page

namespace ProjectViews

/-- A product that can be subscribed to. -/
structure Product where
  name : String
  metadata : List (String × String)
deriving DecidableEq, Repr, Inhabited

/-- Reading a product from JSON. -/
def Product.ofTree? (t : Json.Tree) : Option Product := do
  let f ← Json.fields? ["name", "metadata"] t
  let name ← Json.orElse "" Json.string? (f "name")
  let metadata ← Json.orElse [] Json.strings? (f "metadata")
  pure ⟨name, metadata⟩

/-- A product as JSON. -/
def Product.toTree (p : Product) : Json.Tree :=
  .record [("name", .text p.name), ("metadata", Json.ofStrings p.metadata)]

/-- The price of a product: the interval at which it is billed, unless it is billed
once, and the product. -/
structure Price where
  interval : Option String
  product : Product
deriving DecidableEq, Repr, Inhabited

/-- Reading a billing interval from JSON. -/
def Price.intervalOfTree? (t : Json.Tree) : Option String := do
  let f ← Json.fields? ["interval"] t
  Json.required Json.string? (f "interval")

/-- Reading a price from JSON. -/
def Price.ofTree? (t : Json.Tree) : Option Price := do
  let f ← Json.fields? ["recurring", "product"] t
  let interval ← Json.optional Price.intervalOfTree? (f "recurring")
  let product ← Json.orElse ⟨"", []⟩ Product.ofTree? (f "product")
  pure ⟨interval, product⟩

/-- A price as JSON. -/
def Price.toTree (p : Price) : Json.Tree :=
  .record
    [("recurring", .orNull (p.interval.map fun s => .record [("interval", .text s)])),
     ("product", p.product.toTree)]

/-- What an account has subscribed to. -/
structure Subscription where
  prices : List Price
deriving DecidableEq, Repr, Inhabited

namespace Subscription

/-- Reading the price of a subscribed item from JSON. -/
def itemOfTree? (t : Json.Tree) : Option Price := do
  let f ← Json.fields? ["price"] t
  Json.required Price.ofTree? (f "price")

/-- Reading a subscription from JSON. -/
def ofTree? (t : Json.Tree) : Option Subscription := do
  let f ← Json.fields? ["items"] t
  let prices ← Json.orElse [] (Json.list? itemOfTree?) (f "items")
  pure ⟨prices⟩

/-- A subscription as JSON. -/
def toTree (s : Subscription) : Json.Tree :=
  .record [("items", .array (s.prices.map fun p => .record [("price", p.toTree)]))]

end Subscription

end ProjectViews
