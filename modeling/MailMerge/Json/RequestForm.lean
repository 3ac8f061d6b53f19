import MailMerge.Json.RecordForm
import MailMerge.Service.Request

/-!
# Letters and requests as documents

The written forms of a letter and of a request for one. Every member of a request may
be left out.
-/

namespace MailMerge.Json

open Decode

/-- A letter. -/
def letter : Decoder Letter :=
  (Field.required "subject" text |>.both (Field.required "body" text)).decode
    fun (subject, body) => ⟨subject, body⟩

/-- A request for a letter. -/
def request : Decoder Service.Request :=
  (Field.optional "template_name" text |>.both (.both (Field.optional "user_template_id" uuid)
    (.both (Field.optional "record" reference)
      (.both (Field.withDefault "substitutions" (dict text) .empty)
        (Field.withDefault "filters" (dict query) .empty))))).decode
    fun (name, id, target, tokens, filters) => ⟨name, id, target, tokens, filters⟩

end MailMerge.Json
