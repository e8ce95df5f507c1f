import OrderDesk.Publisher

/-!
# Publishing to the log

Messages are written to the log as text, so a message is rejected if its value is none.
-/

namespace OrderDesk.Publisher

/-- The publisher that accepts every message whose value is UTF-8. -/
def log : Publisher Unit where
  publish message state :=
    match Utf8.decode message.value with
    | .ok _ => (.ok (), state)
    | .error fault => (.error (.ofMessage message fault.message), state)

end OrderDesk.Publisher
