import Wicked.Update.Handlers
import Wicked.Update.PerTarget
import Wicked.Refcount.Ledger
import Wicked.Dbus.SignalHandler
import Wicked.Dbus.Macvlan
