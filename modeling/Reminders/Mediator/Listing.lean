import Reminders.Json.Value
import Reminders.Mediator.Basic
import Reminders.Text.Quoted

/-!
# What a mediator lists

The subscriptions of a mediator are listed by kind; those of one kind keep the order of their
registration.
-/

namespace Reminders

variable {C : Catalog} {σ : Type}

structure Listing where
  kind : String
  consumer : Consumer.Name
deriving DecidableEq, Repr

namespace Listing

/-- Whether a listing may stand before another. -/
def precedes (a b : Listing) : Bool := a.kind ≤ b.kind

def describe (l : Listing) : String :=
  "SubscriptionInfo \x7b event_kind: " ++ Text.quoted l.kind ++ ", consumer_name: ConsumerName(" ++
    Text.quoted l.consumer.text ++ ") \x7d"

def toJson (l : Listing) : Json.Value :=
  .object [("event_kind", .text l.kind), ("consumer_name", .text l.consumer.text)]

end Listing

namespace Subscription

def listing (s : Subscription C σ) : Listing := ⟨s.kind, s.consumer⟩

end Subscription

namespace Mediator

def listings (m : Mediator C σ) : List Listing :=
  (m.subscriptions.map (·.listing)).mergeSort Listing.precedes

def describe (m : Mediator C σ) : String :=
  "Mediator \x7b request_handlers: " ++ toString m.handlers.length ++ ", subscriptions: [" ++
    ", ".intercalate (m.listings.map Listing.describe) ++ "], .. \x7d"

end Mediator

end Reminders
