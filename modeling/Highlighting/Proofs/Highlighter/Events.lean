import Highlighting.Proofs.Assembly.Standalone
import Highlighting.Proofs.Highlighter.Registrations
import Highlighting.Proofs.Text.Unquoting

namespace Highlighting

def Event.text? (e : Event) : Option (List Char) :=
  match e.fields.lookup "text" with
  | some (.verbatim quoted) => Quoted.decode? quoted.toList
  | _ => none

namespace Tokens

end Tokens

namespace Highlighter

variable {h : Highlighter} {language : String}

structure Told (h : Highlighter) (language source : String) (out : Highlighted)
    (events : List Event) : Prop where
  language_eq : out.language = language
  server : ∃ lexer : Lexer, h.server? language = some lexer.handler ∧ out.handler = lexer.name ∧
    out.tokens = (lexer.tokenize source).value
  events_eq : events =
    (if h.registry.contains language then [] else [.fellBack language out.handler]) ++
      .tokenizing out.handler source.utf8ByteSize :: (out.tokens.map .produced ++
        [.highlighted language out.handler out.tokens.length])
  count_eq : events.countP (fun e => e.message = "Produced token") = out.tokens.length
  text_eq : (events.filterMap Event.text?).flatten = source.toList

structure Tells (h : Highlighter) (language source : String) : Prop where
  served : h.Serves language → ∃ out events, h.highlight language source = ⟨.ok out, events⟩ ∧
    h.Told language source out events
  unserved : ¬h.Serves language → h.highlight language source =
    ⟨.error (.registry (.unknownLanguage language)), []⟩

end Highlighter

namespace Highlighter

end Highlighter

end Highlighting
