import ProductSite.Foundation.Balances
import ProductSite.Foundation.CascadeDelete
import ProductSite.Foundation.CheckThenAct
import ProductSite.Foundation.Clashes
import ProductSite.Foundation.Floats
import ProductSite.Foundation.Joins
import ProductSite.Foundation.KeyedTable
import ProductSite.Foundation.Listing
import ProductSite.Foundation.Numerals
import ProductSite.Foundation.Ownership
import ProductSite.Foundation.References
import ProductSite.Foundation.RemoteCalls
import ProductSite.Foundation.Runs
import ProductSite.Foundation.SharedCell
import ProductSite.Foundation.TableMap
import ProductSite.Foundation.Ties
import ProductSite.Foundation.Views
import ProductSite.Foundation.Wire
import ProductSite.Backend.Accounts
import ProductSite.Backend.CartRoutes
import ProductSite.Backend.CheckoutRoutes
import ProductSite.Backend.ContentRoutes
import ProductSite.Backend.Credentials
import ProductSite.Backend.Email
import ProductSite.Backend.InventoryRoutes
import ProductSite.Backend.KitRoutes
import ProductSite.Backend.KitSchema
import ProductSite.Backend.Listings
import ProductSite.Backend.Models
import ProductSite.Backend.NewsletterMessages
import ProductSite.Backend.NewsletterRoutes
import ProductSite.Backend.PersonalRoutes
import ProductSite.Backend.PurchaseRoutes
import ProductSite.Backend.PurchaseSaving
import ProductSite.Backend.RedisListener
import ProductSite.Backend.Requests
import ProductSite.Backend.Site
import ProductSite.Storefront.BillingModal
import ProductSite.Storefront.CartContext
import ProductSite.Storefront.CartPage
import ProductSite.Storefront.CartProvider
import ProductSite.Storefront.CharacterForm
import ProductSite.Storefront.EditableContent
import ProductSite.Storefront.FavoriteButton
import ProductSite.Storefront.Filters
import ProductSite.Storefront.InventoryEditing
import ProductSite.Storefront.NewsletterList
import ProductSite.Storefront.SavedSearches
import ProductSite.Storefront.ViewingOptions
import ProductSite.Access.Addresses
import ProductSite.Access.AdminBypass
import ProductSite.Access.Authentication
import ProductSite.Access.Carts
import ProductSite.Access.Catalogue
import ProductSite.Access.Credentials
import ProductSite.Access.GoogleSignIn
import ProductSite.Access.Isolation
import ProductSite.Access.OneAccount
import ProductSite.Access.Privileges
import ProductSite.Access.Roles
import ProductSite.Browse.InventoryPages
import ProductSite.Browse.InventoryRows
import ProductSite.Browse.KitListing
import ProductSite.Browse.KitPages
import ProductSite.Browse.Kits
import ProductSite.Browse.OrderPages
import ProductSite.Browse.Orders
import ProductSite.Browse.Ratings
import ProductSite.Browse.Reloads
import ProductSite.Browse.Search
import ProductSite.Cart.Additive
import ProductSite.Cart.LostAdds
import ProductSite.Cart.Privacy
import ProductSite.Cart.Simulation
import ProductSite.Cart.UniqueRows
import ProductSite.Catalogue.Creation
import ProductSite.Catalogue.Deletion
import ProductSite.Catalogue.EditForm
import ProductSite.Catalogue.OptionTables
import ProductSite.Checkout.Abandoned
import ProductSite.Checkout.AllOrNothing
import ProductSite.Checkout.Cents
import ProductSite.Checkout.Clicks
import ProductSite.Checkout.DeliveryAddress
import ProductSite.Checkout.OrderDates
import ProductSite.Checkout.Prices
import ProductSite.Checkout.Purchased
import ProductSite.Checkout.Quantities
import ProductSite.Checkout.ReservedRow
import ProductSite.Checkout.Submission
import ProductSite.Checkout.WarehouseNames
import ProductSite.Content.ClientCopy
import ProductSite.Content.LostEdits
import ProductSite.Personal.Favorites
import ProductSite.Personal.Hearts
import ProductSite.Personal.Mailing
import ProductSite.Personal.Newsletter
import ProductSite.Personal.NewsletterDesk
import ProductSite.Personal.Reviews
import ProductSite.Personal.SavedSearches
import ProductSite.Stock.Expiry
import ProductSite.Stock.Ledger
import ProductSite.Stock.LostUpdates
import ProductSite.Stock.NonNegative
import ProductSite.Stock.PurchaseEffects
import ProductSite.Stock.Restoring
import ProductSite.Stock.Returns
import ProductSite.Stock.RowEdits
import ProductSite.Stock.RowKeys
import ProductSite.Stock.RowWrites
import ProductSite.Stock.WarehouseRows
