import Reminders.Main
import Reminders.Http.App
import Reminders.Store.Recording
import Reminders.Proofs.Mediator.Dispatch
import Reminders.Proofs.Mediator.Delivery
import Reminders.Proofs.Reminder.Setting
import Reminders.Proofs.Consumer.Resolution
import Reminders.Proofs.Http.Posting
import Reminders.Proofs.Reminder.Encoding
import Reminders.Proofs.Store.Keeping
import Reminders.Proofs.Mediator.Listings
import Reminders.Proofs.Store.Refinement
import Reminders.Proofs.Store.Poisoning
import Reminders.Proofs.Reminder.Ownership
import Reminders.Proofs.Reminder.Copies
import Reminders.Proofs.Consumer.Concatenation
import Reminders.Proofs.Mediator.Reordering
import Reminders.Proofs.Reminder.Forgetting
import Reminders.Proofs.Http.Shutdown
import Reminders.Proofs.Consumer.VersionForm
import Reminders.Proofs.Consumer.Diagnosis
import Reminders.Proofs.Consumer.Influence
import Reminders.Proofs.Consumer.Qualification
import Reminders.Proofs.Cancellation
import Reminders.Proofs.Store.Redelivery
import Reminders.Proofs.Startup.Wiring
import Reminders.Proofs.Http.Senders
import Reminders.Proofs.Http.Failures
import Reminders.Proofs.Startup.Binding
import Reminders.Proofs.Reminder.ByName
