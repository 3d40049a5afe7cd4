import PropAMM.Router.Chain

/-! # The SDK's table of pAMM addresses -/

namespace PropAMM

def bebop : Address := 0xB09AAA8933626d7E4C48D65dAd2D77021CFBCA9a
def kipseli : Address := 0x71e790dd841c8A9061487cb3E78C288E75cE0B3d
def metric : Address := 0x99Ab7c1C5eab47801F7937075998527a550fbA8a
def kaliber : Address := 0xb8D4E06E3038B07B4376ba3020EABCE69F673463

/-- The quote addresses under which a maker publishes, where they are not the venue's. -/
def quoteAddressVenues : List (Address × Address) := [
  (0xc9a956b5196dfe110debe8781857bc8b97d32091, kipseli),
  (0x32b569ac897a034f6ec292531e8ef81a9b4ed9ef, kaliber),
  (0xe844701934d9c6085b292e428f41b911cc0b3872, metric),
  (0x30a88bf894d1b806125a23ebf23d715496fd7102, metric),
  (0x810a649974f21bb6d3b2e781597edbdaabe82228, metric),
  (0x38e6f145586043a030d02f1aa32eb55c65183a1d, metric)]

/-- The router venue that a quote address stands for. -/
def venueForQuoteAddress (quoteAddress : Address) : Address :=
  ((quoteAddressVenues.find? fun e => e.1 = quoteAddress).map Prod.snd).getD quoteAddress

end PropAMM
