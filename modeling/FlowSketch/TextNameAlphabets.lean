/-! Names of the characters of Unicode 14 below `U+2000`, as `TextName` reads them. -/
namespace FlowSketch.TextNameAlphabets

/-- Entries for consecutive characters, from the given one on. -/
def blocks : List (Nat × List String) := [
  (0x20, ["aSPACEaEXCLAMATION MARKa,QUOTaNUMBER SIGNa(DOLLAa&PERCENTaAMPERSANDbPOSTROPHEaLEFT PARENTHESISa;RIGH",
    "aASTERISKaPLUS SIGNaCOMMAaHYPHEN-MINUSaFULL STOPaSOLIDUSaDIGIT ZEROgONEgTWOhHREEgFOURhIVEgSIXhEVENgEIGHTgNINE",
    "aCOLONa&SEMIaLESS-THAN SIGNa&EQUALSa&GREATER-THANaQUESTION MARKaCOMMERCIAL ATaLATIN CAPITAL LETTER A~~~~~~~~~~~~",
    "~~~~~~~~~~~~~bEFT SQUARE BRACKETaREVERSE SOLIDUSbIGHT SQUARE BRACKETaCIRCUMFLEX ACCENTaLOW LINEaGRAVE ACCENT",
    "aLATIN SMALL LETTER A~~~~~~~~~~~~~~~~~~~~~~~~~bEFT CURLY BRACKETaVERTICAL LINEaRIGHT CURLY BRACKETaTILDE"]),
  (0xA0, ["aNO-BREAK SPACEaINVERTED EXCLAMATION MARKaCENT SIGNa&POUNDa&CURRENCYa&YENaBROKEN BARaSECTION SIGN",
    "aDIAERESISaCOPYRIGHT SIGNaFEMININE ORDINAL INDICATORaLEFT-POINTING DOUBLE ANGLE QUOTATION MARKaNOT SIGN",
    "aSOFT HYPHENaREGISTERED SIGNaMACRONaDEGREE SIGNa&PLUS-MINUSaSUPERSCRIPT TWOnHREEaACUTE ACCENTaMICRO SIGN",
    "a&PILCROWaMIDDLE DOTaCEDILLAaSUPERSCRIPT ONEaMASCULINE ORDINAL INDICATOR",
    "aRIGHT-POINTING DOUBLE ANGLE QUOTATION MARKaVULGAR FRACTION ONE QUARTERuHALFqTHREE QUARTERS",
    "aINVERTED QUESTION MARKaLATIN CAPITAL LETTER A WITH GRAVEzdACUTEzdCIRCUMFLEXzdTILDEzdDIAERESISzdRING ABOVEwE",
    "vC WITH CEDILLAvE WITH GRAVEzdACUTEzdCIRCUMFLEXzdDIAERESISvI WITH GRAVEzdACUTEzdCIRCUMFLEXzdDIAERESISvETH",
    "vN WITH TILDEvO WITH GRAVEzdACUTEzdCIRCUMFLEXzdTILDEzdDIAERESISaMULTIPLICATION SIGN",
    "aLATIN CAPITAL LETTER O WITH STROKEvU WITH GRAVEzdACUTEzdCIRCUMFLEXzdDIAERESISvY WITH ACUTEvTHORN",
    "gSMALL LETTER SHARP StA WITH GRAVEz ACUTEz CIRCUMFLEXz TILDEz DIAERESISz RING ABOVEuEtC WITH CEDILLA",
    "tE WITH GRAVEz ACUTEz CIRCUMFLEXz DIAERESIStI WITH GRAVEz ACUTEz CIRCUMFLEXz DIAERESIStETHtN WITH TILDE",
    "tO WITH GRAVEz ACUTEz CIRCUMFLEXz TILDEz DIAERESISaDIVISION SIGNaLATIN SMALL LETTER O WITH STROKEtU WITH GRAVE",
    "z ACUTEz CIRCUMFLEXz DIAERESIStY WITH ACUTEtTHORNtY WITH DIAERESISgCAPITAL LETTER A WITH MACRONg|SMAL",
    "gCAPITAL LETTER A WITH BREVEg^SMALgCAPITAL LETTER A WITH OGONEKg|SMALgCAPITAL LETTER C WITH ACUTEg^SMAL",
    "gCAPITAL LETTER C WITH CIRCUMFLEXg|%SMALgCAPITAL LETTER C WITH DOT ABOVEg|$SMALgCAPITAL LETTER C WITH CARON",
    "g^SMALg.CAPITAL LETTER Dg^SMALgCAPITAL LETTER D WITH STROKEg|SMALgCAPITAL LETTER E WITH MACRONg|SMAL",
    "gCAPITAL LETTER E WITH BREVEg^SMALg#CAPITAL LETTER E WITH DOT ABOg|$SMALgCAPITAL LETTER E WITH OGONEKg|SMAL",
    "gCAPITAL LETTER E WITH CARONg^SMALgCAPITAL LETTER G WITH CIRCUMFLEXg|%SMALgCAPITAL LETTER G WITH BREVEg^SMAL",
    "g#CAPITAL LETTER G WITH DOT ABOg|$SMALgCAPITAL LETTER G WITH CEDILLAg|SMALLgCAPITAL LETTER H WITH CIRCUMFLEX",
    "g|%SMALgCAPITAL LETTER H WITH STROKEg|SMALgCAPITAL LETTER I WITH TILDEg^SMALgCAPITAL LETTER I WITH MACRONg|SMAL",
    "gCAPITAL LETTER I WITH BREVEg^SMALgCAPITAL LETTER I WITH OGONEKg|SMALgCAPITAL LETTER I WITH DOT ABOVE",
    "gSMALL LETTER DOTLESS IgCAPITAL LIGATURE IJg;SMALgCAPITAL LETTER J WITH CIRCUMFLEXg|%SMAL",
    "gCAPITAL LETTER K WITH CEDILLAg|SMALLuRAgCAPITAL LETTER L WITH ACUTEg^SMALgCAPITAL LETTER L WITH CEDILLAg|SMALL",
    "gCAPITAL LETTER L WITH CARONg^SMALgCAPITAL LETTER L WITH MIDDLE DOTg|%SMALgCAPITAL LETTER L WITH STROKEg|SMAL",
    "gCAPITAL LETTER N WITH ACUTEg^SMALgCAPITAL LETTER N WITH CEDILLAg|SMALLgCAPITAL LETTER N WITH CARONg^SMAL",
    "vPRECEDED BY APOSTROPHEgCAPITAL LETTER ENGg:SMALgCAPITAL LETTER O WITH MACRONg|SMALgCAPITAL LETTER O WITH BREVE",
    "g^SMALgCAPITAL LETTER O WITH DOUBLE ACUTEg|(SMALgCAPITAL LIGATURE OEg;SMALgCAPITAL LETTER R WITH ACUTEg^SMAL",
    "gCAPITAL LETTER R WITH CEDILLAg|SMALLgCAPITAL LETTER R WITH CARONg^SMALgCAPITAL LETTER S WITH ACUTEg^SMAL",
    "gCAPITAL LETTER S WITH CIRCUMFLEXg|%SMALgCAPITAL LETTER S WITH CEDILLAg|SMALLgCAPITAL LETTER S WITH CARONg^SMAL",
    "gCAPITAL LETTER T WITH CEDILLAg|SMALLgCAPITAL LETTER T WITH CARONg^SMALgCAPITAL LETTER T WITH STROKEg|SMAL",
    "gCAPITAL LETTER U WITH TILDEg^SMALgCAPITAL LETTER U WITH MACRONg|SMALgCAPITAL LETTER U WITH BREVEg^SMAL",
    "g#CAPITAL LETTER U WITH RING ABOg|%SMALgCAPITAL LETTER U WITH DOUBLE ACUTEg|(SMALgCAPITAL LETTER U WITH OGONEK",
    "g|SMALgCAPITAL LETTER W WITH CIRCUMFLEXg|%SMALg>CAPITAL LETTER Yg|%SMALgCAPITAL LETTER Y WITH DIAERESIS",
    "vZ WITH ACUTEg^SMALgCAPITAL LETTER Z WITH DOT ABOVEg|$SMALgCAPITAL LETTER Z WITH CARONg^SMALtLONG S",
    "tB WITH STROKEgCAPITAL LETTER B WITH HOOKzdTOPBARg|SMALgCAPITAL LETTER TONE SIXg?SMALgCAPITAL LETTER OPEN O",
    "vC WITH HOOKg]SMALgCAPITAL LETTER AFRICAN DvD WITH HOOKzdTOPBARg|SMALtTURNED DELTAgCAPITAL LETTER REVERSED E",
    "vSCHWAvOPEN EvF WITH HOOKg]SMALg,CAPITAL LETTER GwAMMAgSMALL LETTER HVgCAPITAL LETTER IOTAw WITH STROKE",
    "vK WITH HOOKg]SMALtL WITH BARuAMBDA WITH STROKEgCAPITAL LETTER TURNED MvN WITH LEFT HOOK",
    "gSMALL LETTER N WITH LONG RIGHT LEGgCAPITAL LETTER O WITH MIDDLE TILDEzdHORNg]SMALgCAPITAL LETTER OIg.SMAL",
    "gCAPITAL LETTER P WITH HOOKg]SMALgLETTER YRgCAPITAL LETTER TONE TWOg?SMALgCAPITAL LETTER ESH",
    "gLETTER REVERSED ESH LOOPgSMALL LETTER T WITH PALATAL HOOKg&CAPITAL LETTER T WITHg]SMAL",
    "g&CAPITAL LETTER T WITH RETROFLEXvU WITH HORNg]SMALgCAPITAL LETTER UPSILONvV WITH HOOKv,Yg]SMAL",
    "gCAPITAL LETTER Z WITH STROKEg|SMALgCAPITAL LETTER EZHy REVERSEDg^SMALxWITH TAILgLETTER TWO WITH STROKE",
    "gCAPITAL LETTER TONE FIVEg@SMALgLETTER INVERTED GLOTTAL STOP WITH STROKEnWYNNnDENTAL CLICKn*LATERn(ALVEOLAR",
    "n(RETROFLEXgCAPITAL LETTER DZ WITH CARONw: WITH SMALL LETTER g:SMALL LETTER DgCAPITAL LETTER LJ",
    "w WITH SMALL LETTER JgSMALL LETTER LJgCAPITAL LETTER NJw WITH SMALL LETTER JgSMALL LETTER NJ",
    "gCAPITAL LETTER A WITH CARONg^SMALg.CAPITAL LETTER Ig^SMALg.CAPITAL LETTER Og^SMALg.CAPITAL LETTER Ug^SMAL",
    "g$CAPITAL LETTER U WITH DIAERESIS AND MACg|<SMALgCAPITAL LETTER U WITH DIAERESIS AND ACUTEg|;SMAL",
    "gCAPITAL LETTER U WITH DIAERESIS AND CARONg|;SMALgCAPITAL LETTER U WITH DIAERESIS AND GRAVEg|;SMALtTURNED E",
    "gCAPITAL LETTER A WITH DIAERESIS AND MACRONg|<SMALg.CAPITAL LETTER A WITH DOT ABOVEg|<SMAL",
    "g)CAPITAL LETTER AE WITHg|SMALLgCAPITAL LETTER G WITH STROKEg|SMALgCAPITAL LETTER G WITH CARONg^SMAL",
    "g.CAPITAL LETTER Kg^SMALgCAPITAL LETTER O WITH OGONEKg|SMALgCAPITAL LETTER O WITH OGONEK AND MACRONg|.SMAL",
    "g$CAPITAL LETTER EZH WITH CAg|SMALLt.JgCAPITAL LETTER DZw WITH SMALL LETTER ZgSMALL LETTER DZ",
    "gCAPITAL LETTER G WITH ACUTEg^SMALgCAPITAL LETTER HWAIRvWYNNvN WITH GRAVEg^SMAL",
    "gCAPITAL LETTER A WITH RING ABOVE AND ACUTEg|<SMALg(CAPITAL LETTER AE WITHg|SMAL",
    "g(CAPITAL LETTER O WITH STROKE ANDg|,SMALgCAPITAL LETTER A WITH DOUBLE GRAVEg|(SMAL",
    "g#CAPITAL LETTER A WITH INVERTED BREg|*SMALg#CAPITAL LETTER E WITH DOUBLE GRAg|(SMAL",
    "g#CAPITAL LETTER E WITH INVERTED BREg|*SMALg#CAPITAL LETTER I WITH DOUBLE GRAg|(SMAL",
    "g#CAPITAL LETTER I WITH INVERTED BREg|*SMALg#CAPITAL LETTER O WITH DOUBLE GRAg|(SMAL",
    "g#CAPITAL LETTER O WITH INVERTED BREg|*SMALg#CAPITAL LETTER R WITH DOUBLE GRAg|(SMAL",
    "g#CAPITAL LETTER R WITH INVERTED BREg|*SMALg#CAPITAL LETTER U WITH DOUBLE GRAg|(SMAL",
    "g#CAPITAL LETTER U WITH INVERTED BREg|*SMALgCAPITAL LETTER S WITH COMMA BELOWg|&SMALg?CAPITAL LETTER Tg|&SMAL",
    "gCAPITAL LETTER YOGHg;SMALgCAPITAL LETTER H WITH CARONg^SMALgCAPITAL LETTER N WITH LONG RIGHT LEG",
    "gSMALL LETTER D WITH CURLgCAPITAL LETTER OUg.SMALgCAPITAL LETTER Z WITH HOOKg]SMAL",
    "gCAPITAL LETTER A WITH DOT ABOVEg|$SMALgCAPITAL LETTER E WITH CEDILLAg|SMALL",
    "gCAPITAL LETTER O WITH DIAERESIS AND MACRONg|<SMALg.CAPITAL LETTER O WITH TILDEg|,SMAL",
    "gCAPITAL LETTER O WITH DOT ABOVEg|$SMALgCAPITAL LETTER O WITH DOT ABOVE AND MACRONg|<SMALg)CAPITAL LETTER Y WITH",
    "g|SMALtL WITH CURLt,Nt,TtDOTLESS JuB DIGRAPHt*QPgCAPITAL LETTER A WITH STROKEv:Cg|SMALgCAPITAL LETTER L WITH BAR",
    "vT WITH DIAGONAL STROKEgSMALL LETTER S WITH SWASH TAILt>ZgCAPITAL LETTER GLOTTAL STOPg^SMAL",
    "gCAPITAL LETTER B WITH STROKEvU BARvTURNED VvE WITH STROKEg|SMALg:CAPITAL LETTER Jg|SMAL",
    "gCAPITAL LETTER SMALL Q WITH HOOK TAILg?SMALL LETTERgCAPITAL LETTER R WITH STROKEg|SMALg:CAPITAL LETTER Yg|SMAL",
    "tTURNED AtALPHAs( TURNEDtB WITH HOOKtOPEN OtC WITH CURLtD WITH TAILz HOOKtREVERSED EtSCHWAy WITH HOOKtOPEN E",
    "s) REVERSEDzj WITH HOOKtCLOSED REVERSED OPEN EtDOTLESS J WITH STROKEtG WITH HOOKtSCRIPT Gg#LETTER SMALL CAPITAL",
    "gSMALL LETTER GAMMAtRAMS HORNtTURNED HtH WITH HOOKu,ENGtI WITH STROKEuOTAgLETTER SMALL CAPITAL I",
    "gSMALL LETTER L WITH MIDDLE TILDEz BELTz RETROFLEX HOOKuEZHtTURNED Mzc WITH LONG LEGtM WITH HOOKt&N WITH LEFT",
    "z& RETROFLEXgLETTER SMALL CAPITAL NgSMALL LETTER BARRED OgLETTER SMALL CAPITAL OEgSMALL LETTER CLOSED OMEGAtPHI",
    "tTURNED Rzc WITH LONG LEGziHOOKtR WITH LONG LEGz TAILz FISHHOOKs> REVERSEDgLETTER SMALL CAPITAL Rz#L INVERTED",
    "gSMALL LETTER S WITH HOOKtESHtDOTLESS J WITH STROKE AND HOOKtSQUAT REVERSED ESHtESH WITH CURLtTURNED T",
    "u WITH RETROFLEX HOOKtU BARuPSILONtV WITH HOOKtTURNED V~z Yg#LETTER SMALL CAPITAL",
    "gSMALL LETTER Z WITH RETROFLEX HOOKz CURLtEZHw WITH CURLgLETTER GLOTTAL STOPnPHARYNGEAL VOICED FRICATIVE",
    "nINVERTED GLOTTAL STOPnSTRETCHED CnBILABIAL CLICKnSMALL CAPITAL BgSMALL LETTER CLOSED OPEN E",
    "gLETTER SMALL CAPITAL G WITH HOOKzcHgSMALL LETTER J WITH CROSSED-TAILtTURNED KgLETTER SMALL CAPITAL L",
    "gSMALL LETTER Q WITH HOOKgLETTER GLOTTAL STOP WITH STROKEm|$ REVERSEDgSMALL LETTER DZ DIGRAPHu*EZH",
    "uZ DIGRAPH WITH CURLtTS DIGRAPHu*ESHuC DIGRAPH WITH CURLtFENG DIGRAPHt*LSu*ZgLETTER BILABIAL PERCUSSIVEp;DENT",
    "gSMALL LETTER TURNED H WITH FISHHOOKzq AND TAILaMODIFIER LETTER SMALL Hx WITH HOOKwJwRv# TURNEDzf WITH HOOK",
    "wCAPITAL INVERTED RwWwYqPRIMEp( DOUBLEqTURNED COMMAqAPOSTROPHEqREVERSED COMMArIGHT HALF RINGq.LEFqGLOTTAL STOP",
    "p; REVERSEDqLEFT ARROWHEADq.RIGHq,UPq,DOWNqCIRCUMFLEX ACCENTaCARONaMODIFIER LETTER VERTICAL LINEqMACRON",
    "qACUTE ACCENTq*GRAVqLOW VERTICAL LINEuMACRONuGRAVE ACCENTu*ACUTqTRIANGULAR COLONp? HALFqCENTRED RIGHT HALF RING",
    "y.LEFqUP TACKq&DOWNqPLUS SIGNq)MINaBREVEa#DOT ABOa(RINGaOGONEKaSMALL TILDEaDOUBLE ACUTE ACCENT",
    "aMODIFIER LETTER RHOTIC HOOKqCROSS ACCENTqSMALL GAMMAwLwSwXwREVERSED GLOTTAL STOPqEXTRA-HIGH TONE BARq;q+MID",
    "q+LOWq:EXTRA-qYIN DEPARTING TONE MARKr]ANGqVOICINGqUNASPIRATEDqDOUBLE APOSTROPHEqLOW DOWN ARROWHEADu,UPu,LEFT",
    "u.RIGHwNGqMIDDLE GRAVE ACCENTu=LE DOUBzf*ACUTqLOW TILDEqRAISED COLONqBEGIN HIGH TONEq,ENDq&BEGIN LOWq+ENDqSHELF",
    "p( OPENqLOW LEFT ARROWaCOMBINING GRAVE ACCENTk*ACUTk)CIRCUMFLEXkTILDEkMACRONkOVERLINEkBREVEk#DOT ABOlIAERESIS",
    "kHOOK ABOVEk(RINGkDOUBLE ACUTE ACCENTkCARONkVERTICAL LINE ABOVEj] DOUBLErGRAVE ACCENTkCANDRABINDUkINVERTED BREVE",
    "k#TURNED COMMA ABOj:j: REVERSEDkCOMMA ABOVE RIGHTkGRAVE ACCENT BELOWk<ACUTk(LEFT TACKk:RIGHkLEFT ANGLE ABOVE",
    "kHORNkLEFT HALF RING BELOWk(UP TACKk.DOWNk(PLUS SIGNk;MINk(PALATALIZED HOOKk.RETROFLEXk(DOTl(IAERESISk(RING",
    "k(COMMAlEDILLAkOGONEKkVERTICAL LINE BELOWk)BRIDGk(INVERTED DOUBLE ARCHk(CARONl(IRCUMFLEX ACCENTk(BREVE",
    "j: INVERTEDk)TILDk(MACRONkLOW LINEj+ DOUBLEkTILDE OVERLAYk+SHORT STROKk=LONGk*SHORT SOLIDUSk>LONG",
    "kRIGHT HALF RING BELOWk(INVERTED BRIDGEk)SQUARl(EAGULLkX ABOVEkVERTICAL TILDEkDOUBLE OVERLINEkGRAVE TONE MARK",
    "k.ACUTkGREEK PERISPOMENIqKORONISqDIALYTIKA TONOSqYPOGEGRAMMENIkBRIDGE ABOVEkEQUALS SIGN BELOW",
    "k(DOUBLE VERTICAL LINEk)LEFT ANGLkNOT TILDE ABOVEk(HOMOTHETICk(ALMOST EQUAL TOkLEFT RIGHT ARROW BELOWk:UPWARDS",
    "kGRAPHEME JOINERkRIGHT ARROWHEAD ABOVEk(LEFT HALF RINGkFERMATAkX BELOWk(LEFT ARROWHEADk?RIGHp> ARROWHEAD AND UP",
    "qHALF RING ABOVEkDOT ABOVE RIGHTkASTERISK BELOWk(DOUBLE RINGkZIGZAG ABOVEkDOUBLE BREVE BELOWvErMACRONx BELOW",
    "rTILDErINVERTED BREVErRIGHTWARDS ARROW BELOWkLATIN SMALL LETTER AzeEzeIzeOzeUzeC~zeHzeMzeRzeTzeVzeX",
    "aGREEK CAPITAL LETTER HETAg;SMALgCAPITAL LETTER ARCHAIC SAMPIg|SMALgNUMERAL SIGNf; LOWER",
    "gCAPITAL LETTER PAMPHYLIAN DIGAMMAg|&SMAL__gYPOGEGRAMMENIgSMALL REVERSED LUNATE SIGMA SYMBOLm|DOTTl|& REVERSED",
    "gQUESTION MARKgCAPITAL LETTER YOT____gTONOSf( DIALYTIKAg(CAPITAL LETTER ALPHA WITHgANO TELEIA",
    "gCAPITAL LETTER EPSILON WITH TONOSw.TAv;IO_v.OMICRON_v;UPSILv.OMEGAg(SMALL LETTER IOTA WITH DIALYTIKA AND",
    "gCAPITAL LETTER ALPHAvBETAvGAMMAvDELTAvEPSILONvZETAv$v$THv#IOvKAPPAvLAMDAvMUvNUvXIvOMICRONvPIvRHO_vSIGMAvTAU",
    "vUPSILONvPHIv#CvPSIvOMEGAvIOTA WITH DIALYTIKAv=UPSILONgSMALL LETTER ALPHA WITH TONOSt.EPSILONu.TAt;IO",
    "t(UPSILON WITH DIALYTIKA ANDtALPHAtBETAtGAMMAtDELTAtEPSILONtZETAt$t$THt#IOtKAPPAtLAMDAtMUtNUtXItOMICRONtPItRHO",
    "tFINAL SIGMAs(tTAUtUPSILONtPHIt#CtPSItOMEGAtIOTA WITH DIALYTIKAt=UPSILONtOMICRON WITH TONOSt;UPSILt.OMEGA",
    "gCAPITAL KAI SYMBOLg)BETAg,THg)UPSILON WITH HOOKs: ACUTE ANDt>DIAERESISg)PHIh*g*KAgLETTER ARCHAIC KOPPAf^ SMALL",
    "gLETTER STIGMAf< SMALLg#LETTER DIGAMf= SMALLgLETTER KOPPAf; SMALLgLETTER SAMPIf; SMALL",
    "aCOPTIC CAPITAL LETTER SHEIh;SMALh#CAPITAL LETTER Fh:SMALh#CAPITAL LETTER KHh;SMALhCAPITAL LETTER HORIh;SMAL",
    "hCAPITAL LETTER GANGIAh=SMALhCAPITAL LETTER SHIMAh<SMALhCAPITAL LETTER DEIh:SMALaGREEK KAPPA SYMBOLg)RHO",
    "g)LUNATE SIGMAhETTER YOTgCAPITAL THETA SYMBOLg)LUNATE EPSILONf| REVERSEDgCAPITAL LETTER SHOg:SMAL",
    "gCAPITAL LUNATE SIGMA SYMBOLpETTER SANg:SMALgRHO WITH STROKE SYMBOLg)CAPITAL REVERSED LUNATE SIGMAo|DOTT",
    "n|& REVERSEDaCYRILLIC CAPITAL LETTER IE WITH GRAVEzOyDJEy#GyUKRAINIAN IEyDZEyBYELORUSSIAN-UKRAINIAN IyYIyJEy#L",
    "y#NyTSHEyKJEyI WITH GRAVEySHORT UyDZHEyAyBEyVEyGHEyDEyIEyZHEzEyIx# SHORTyKAyEL~~yOyPEyER~yTEyUyEFyHAyTSEyCHEySHA",
    "z#HCyHARD SIGNyYERUySOFT SIGNyEyYUzAjSMALL LETTER AwBEwVEwGHEwDEwIEwZHExEwIv# SHORTwKAwEL~~wOwPEwER~wTEwUwEFwHA",
    "wTSEwCHEwSHAx#HCwHARD SIGNwYERUwSOFT SIGNwEwYUxAwIE WITH GRAVExOwDJEw#GwUKRAINIAN IEwDZE",
    "wBYELORUSSIAN-UKRAINIAN IwYIwJEw#Lw#NwTSHEwKJEwI WITH GRAVEwSHORT UwDZHEjCAPITAL LETTER OMEGAj<SMAL",
    "jCAPITAL LETTER YATj:SMALjCAPITAL LETTER IOTIFIED Ej[SMALjCAPITAL LETTER LITTLE YUSj[SMAL",
    "j.CAPITAL LETTER IOTIFIEDj|(SMALj%CAPITAL LETTER BIGj>SMALj*CAPITAL LETTER IOTIFIEDj|$SMALjCAPITAL LETTER KSI",
    "j:SMALj#CAPITAL LETTER Pj:SMALjCAPITAL LETTER FITAj;SMALjCAPITAL LETTER IZHITSAj>SMAL",
    "jCAPITAL LETTER IZHITSA WITH DOUBLE GRAVE ACCENTj|[SMALjCAPITAL LETTER UKj.SMALjCAPITAL LETTER ROUND OMEGAj]SMAL",
    "jCAPITAL LETTER OMEGA WITH TITLOj|$SMALjCAPITAL LETTER OTj.SMALjCAPITAL LETTER KOPPAj<SMALjTHOUSANDS SIGN",
    "bOMBINING CYRILLIC TITLOtPALATALIZATIONtDASIA PNEUMATAt+PSILIuOKRYTIEtHUNDRED THOUSANDS SIGNt(MILLION",
    "bYRILLIC CAPITAL LETTER SHORT I WITH TAILj|%SMALjCAPITAL LETTER SEMISOFT SIGNj|SMALjCAPITAL LETTER ER WITH TICK",
    "j^SMALjCAPITAL LETTER GHE WITH UPTURNj|#SMALjCAPITAL LETTER GHE WITH STROKEj|#SMAL",
    "jCAPITAL LETTER GHE WITH MIDDLE HOOKj|)SMALjCAPITAL LETTER ZHE WITH DESCENDERj|&SMALj>CAPITAL LETTER Zj|%SMAL",
    "j=CAPITAL LETTER KAj|%SMALjCAPITAL LETTER KA WITH VERTICAL STROKEj|,SMALj)CAPITAL LETTER KA WITHj|SMALL",
    "jCAPITAL LETTER BASHKIR KAj[SMALjCAPITAL LETTER EN WITH DESCENDERj|%SMALjCAPITAL LIGATURE EN GHEj?SMAL",
    "jCAPITAL LETTER PE WITH MIDDLE HOOKj|(SMALjCAPITAL LETTER ABKHASIAN HAj^SMALjCAPITAL LETTER ES WITH DESCENDER",
    "j|%SMALj=CAPITAL LETTER TEj|%SMALjCAPITAL LETTER STRAIGHT Uj[SMALjCAPITAL LETTER STRAIGHT U WITH STROKEj|+SMAL",
    "jCAPITAL LETTER HA WITH DESCENDERj|%SMALjCAPITAL LIGATURE TE TSEj?SMALjCAPITAL LETTER CHE WITH DESCENDERj|&SMAL",
    "jCAPITAL LETTER CHE WITH VERTICAL STROKEj|.SMALjCAPITAL LETTER SHHAj;SMALjCAPITAL LETTER ABKHASIAN CHEj|SMAL",
    "jCAPITAL LETTER ABKHASIAN CHE WITH DESCENDERj|=SMALjLETTER PALOCHKAjCAPITAL LETTER ZHE WITH BREVEj|SMALL",
    "jCAPITAL LETTER KA WITH HOOKj^SMALjCAPITAL LETTER EL WITH TAILj^SMALjCAPITAL LETTER EN WITH HOOKj^SMAL",
    "jCAPITAL LETTER EN WITH TAILj^SMALjCAPITAL LETTER KHAKASSIAN CHEj|SMALLjCAPITAL LETTER EM WITH TAILj^SMAL",
    "wPALOCHKAjCAPITAL LETTER A WITH BREVEj^SMALjCAPITAL LETTER A WITH DIAERESISj|$SMALjCAPITAL LIGATURE A IEj=SMAL",
    "jCAPITAL LETTER IE WITH BREVEj|SMALjCAPITAL LETTER SCHWAj<SMALjCAPITAL LETTER SCHWA WITH DIAERESISj|)SMAL",
    "j=CAPITAL LETTER ZHEj|&SMALj>CAPITAL LETTER Zj|%SMALjCAPITAL LETTER ABKHASIAN DZEj|SMAL",
    "jCAPITAL LETTER I WITH MACRONj|SMALjCAPITAL LETTER I WITH DIAERESISj|$SMALj=CAPITAL LETTER Oj|$SMAL",
    "jCAPITAL LETTER BARRED Oj?SMALjCAPITAL LETTER BARRED O WITH DIAERESISj|,SMALj=CAPITAL LETTER Ej|$SMAL",
    "jCAPITAL LETTER U WITH MACRONj|SMALjCAPITAL LETTER U WITH DIAERESISj|$SMALjCAPITAL LETTER U WITH DOUBLE ACUTE",
    "j|(SMALjCAPITAL LETTER CHE WITH DIAERESISj|&SMALjCAPITAL LETTER GHE WITH DESCENDERj|&SMAL",
    "jCAPITAL LETTER YERU WITH DIAERESISj|(SMALjCAPITAL LETTER GHE WITH STROKE AND HOOKj|.SMAL",
    "j&CAPITAL LETTER HA WITHj^SMALjCAPITAL LETTER HA WITH STROKEj|SMALLjCAPITAL LETTER KOMI DEj>SMAL",
    "jCAPITAL LETTER KOMI DJEj?SMALj#CAPITAL LETTER KOMI Zj?SMALj$CAPITAL LETTER KOMI Dj@SMALj#CAPITAL LETTER KOMI L",
    "j?SMALj#CAPITAL LETTER KOMI Nj?SMALj#CAPITAL LETTER KOMI Sj?SMALj#CAPITAL LETTER KOMI Tj?SMAL",
    "jCAPITAL LETTER REVERSED ZEj]SMALjCAPITAL LETTER EL WITH HOOKj^SMALjCAPITAL LETTER LHAj:SMALj#CAPITAL LETTER R",
    "j:SMALjCAPITAL LETTER YAEj:SMALjCAPITAL LETTER QAj.SMALjCAPITAL LETTER WEj.SMALjCAPITAL LETTER ALEUT KAj?SMAL",
    "jCAPITAL LETTER EL WITH MIDDLE HOOKj|(SMALj?CAPITAL LETTER ENj|(SMALjCAPITAL LETTER PE WITH DESCENDERj|%SMAL",
    "j=CAPITAL LETTER SHHAj|(SMALjCAPITAL LETTER EN WITH LEFT HOOKj|%SMALjCAPITAL LETTER DZZHEj<SMAL",
    "j#CAPITAL LETTER DCj;SMALjCAPITAL LETTER EL WITH DESCENDERj|%SMAL_aARMENIAN CAPITAL LETTER AYByBENyGIMyDAyECHyZA",
    "yEHzTyTOyZHEyINIyLIWNyXEHyCAyKENyHOyJAyGHADyCHEHyMENyYIyNOWySHAyVOyCHAyPEHy#JHyRAySEHyVEWyTIWNyREHyCOyYIWNyPIWR",
    "yKEHyOHyFEH__jMODIFIER LETTER LEFT HALF RINGjAPOSTROPHEjEMPHASIS MARKk&XCLAMATIONjCOMMAjQUESTION MARKj+ABBREVIA",
    "jSMALL LETTER TURNED AYBv%wBENwGIMwDAwECHwZAwEHxTwTOwZHEwINIwLIWNwXEHwCAwKENwHOwJAwGHADwCHEHwMENwYIwNOWwSHAwVO",
    "wCHAwPEHw#JHwRAwSEHwVEWwTIWNwREHwCOwYIWNwPIWRwKEHwOHwFEHqIGATURE ECH YIWNqETTER YI WITH STROKEjFULL STOPjHYPHEN_",
    "_aRIGHT-FACING ARMENIAN ETERNITY SIGNa|+LEFa&ARMENIAN DRAM_aHEBREW ACCENT ETNAHTAoSEGOLpHALSHELEToZAQEF QATAN",
    "uGADOLoTIPEHAoREVIAoZARQAoPASHTAoYETIVoTEVIRoGERESHu MUQDAMrSHAYIMoQARNEY PARAoTELISHA GEDOLAoPAZERoATNAH HAFUKH",
    "oMUNAHpAHAPAKHpERKHAu KEFULAoDARGAoQADMAoTELISHA QETANAoYERAH BEN YOMOoOLEoILUYoDEHIoZINORhMARK MASORA CIRCLE",
    "hPOINT SHEVAnHATAF SEGOLtPATAHtQAMATSoIRIQnTSEREnSEGOLnPATAHnQAMATSnHOLAMs HASER FOR VAVnQUBUTSnDAGESH OR MAPIQ",
    "nMETEGiUNCTUATION MAQAFiOINT RAFEiUNCTUATION PASEQiOINT SHIN DOTo(iUNCTUATION SOF PASUQhMARK UPPER DOTm(LOW",
    "hPUNCTUATION NUN HAFUKHAiOINT QAMATS QATAN________hLETTER ALEFoBEToGIMELoDALEToHEoVAVoZAYINoHETo#ToYODoFINAL KAF",
    "n%oLAMEDoFINAL MEMn%oFINAL NUNn%oSAMEKHoAYINoFINAL PEn$oFINAL TSADIn(oQOFoRESHoSHINoTAV____hYOD TRIANGLE",
    "hLIGATURE YIDDISH DOUBLE VAVyVAV YODy%DOUBLEhPUNCTUATION GERESHwSHAYIM"]),
  (0x600, ["aARABIC NUMBER SIGNhSIGN SANAHhFOOTNOTE MARKERhSIGN SAFHAoMVAThNUMBER MARK ABOVEg-INDIC CUBE ROOT",
    "n&FOURTHg RAYg-INDIC PER MILLE SIGNr&TEN THOUSANDb&FGHANIbRABIC COMMAhDATE SEPARATORhPOETIC VERSE SIGN",
    "hSIGN MISRAmSALLALLAHOU ALAYHE WASSALLAMm*ALAYHE mRAHMATULLAH ALAYHEoDI ALLAHOU ANHUmTAKHALLUSiMALL HIGH TAH",
    "sLIGATURE ALEF WITH LAM WITH YEHsZAINnFATHAnDAMMAnKASRAiEMICOLONhLETTER MARKh&END OF TEXT",
    "h&TRIPLE DOT PUNCTUATIONh+QUEShLETTER KASHMIRI YEHoHAMZAoALEF WITH MADDA ABOVEy)HAMZo?WAWoALEF WITH HAMZA BELOW",
    "oYEH WITH HAMZA ABOVEoALEFoBEHoTEH MARBUTAqHp#HoJEEMoHAHo$KoDALo#THoREHoZAINoSEENp$HpADo#DoTAHo#ZoAINo$GH",
    "oKEHEH WITH TWO DOTS ABOVEzTHREE DOTS BELOWoFARSI YEH WITH INVERTED VzeTWO DOTS ABOVEzf.HREEhTATWEELhLETTER FEH",
    "oQAFo#KoLAMoMEEMoNOONoHEHoWAWoALEF MAKSURAoYEHhFATHATANh%DAMMh%KASRhFATHAhDAMMAhKASRAhSHADDAiUKUNhMADDAH ABOVE",
    "h(HAMZAnBELOWhSUBSCRIPT ALEFhINVERTED DAMMAhMARK NOON GHUNNAhZWARAKAYhVOWEL SIGN SMALL V ABOVEr< INVERTED",
    "sDOT BELOWhREVERSED DAMMAhFATHA WITH TWO DOTShWAVY HAMZA BELOWg-INDIC DIGIT ZEROtONEtTWOuHREEtFOURuIVEtSIXuEVEN",
    "tEIGHTtNINEg PERCENT SIGNhDECIMAL SEPARATORh,THOUSANDShFIVE POINTED STARhLETTER DOTLESS BEHwQAFoSUPERSCRIPT ALEF",
    "oALEF WASLAuITH WAVY HAMZA ABOVEzkBELOWoHIGH HAMZAy ALEFzWAWoU WITH HAMZA ABOVEoHIGH HAMZA YEHo#TTsEHo#BE",
    "oTEH WITH RINGxTHREE DOTS ABOVE DOWNWARDSoPEHo#TEHo%BoHAH WITH HAMZA ABOVEx(TWO DOTS VERTICALoNYEHo$D",
    "oHAH WITH THREE DOTS ABOVEoTCHEHtEHoDDALpAL WITH RINGxDOT BELOWzh AND SMALL TAHqHALo&DpUL",
    "pAL WITH THREE DOTS ABOVE DOWNWARDSxFOUR DOTS ABOVEoRREHpEH WITH SMALL VxRINGxDOT BELOWx(SMALL V",
    "xDOT BELOW AND DOT ABOVEx(TWO DOTSoJEHoREH WITH FOUR DOTS ABOVEo(SEEN WITH DOT BELOW AND DOTyTHREE DOTS BELOW",
    "zp AND THREE DOTS ABOVEpAD WITH TWO DOTS BELOWyHREE DOTS ABOVEo|TAHo|AINoDOTLESS FEHoFEH WITH DOT MOVED BELOWz(T",
    "oVEHoFEH WITH THREE DOTS BELOWoPEHEHoQAF WITH DOT ABOVEx(THREE DOTSoKEHEHoSWASH KAFoKAF WITH RINGxDOT ABOVEoNG",
    "oKAF WITH THREE DOTS BELOWoGAFr WITH RINGoNGOEHoGAF WITH TWO DOTS BELOWpUEHpAF WITH THREE DOTS ABOVE",
    "oLAM WITH SMALL VxDOT ABOVEx(THREE DOTSzjBELOWo(NOON WITH DOTtGHUNNAoRNOONoNOON WITH RINGyTHREE DOTS ABOVE",
    "oHEH DOACHASHMEEoTCHEH WITH DOT ABOVEo(HEH WITH YEHsGOALw WITH HAMZA ABOVEoTEH MARBUTA GOALoWAW WITH RING",
    "oKIRGHIZ OEn$oUoYUn$ KIRGHIZoWAW WITH TWO DOTS ABOVEo#oFARSI YEHoYEH WITH TAILxSMALL VoWAW WITH DOT ABOVEoE",
    "oYEH WITH THREE DOTS BELOWsBARREEy WITH HAMZA ABOVEhFULL STOPhLETTER AE",
    "hSMALL HIGH LIGATURE SAD WITH LAM WITH ALEF MAKSURAzc|&QAFsMEEM INITIAL FORMsLAM ALEFsJEEMsTHREE DOTSsSEEN",
    "hEND OF AYAHhSTART OF RUB EL HIZBiMALL HIGH ROUNDED ZEROs&UPRIGHT RECTANGULARsDOTLESS HEAD OF KHAH",
    "sMEEM ISOLATED FORMnLOW SEENnHIGH MADDAnWAWnYEHm% HIGHsNOONhPLACE OF SAJDAHhEMPTY CENTRE LOW STOPu&HIGH",
    "hROUNDED HIGH STOP WITH FILLED CENTREhSMALL LOW MEEMhLETTER DAL WITH INVERTED Vo>REH",
    "aEXTENDED ARABIC-INDIC DIGIT ZEROzdONEzdTWOzeHREEzdFOURzeIVEzdSIXzeEVENzdEIGHTzdNINE",
    "aARABIC LETTER SHEEN WITH DOT BELOWo=DADo=GHAINhSIGN SINDHI AMPERSANDtPOSTPOSITION MEN",
    "hLETTER HEH WITH INVERTED VaSYRIAC END OF PARAGRAPHhSUPRALINEAR FULL STOPj>BjPRALINEAR COLONj:Bh(HORIZONTAL",
    "hCOLON SKEWED LEFTuRIGHThSUPRALINEAR COLON SKEWED LEFTjBLINEAR COLON SKEWED RIGHThCONTRACTIONhHARKLEAN OBELUS",
    "q(METq#ASTERISC_hABBREVIATION MARKhLETTER ALAPHn( SUPERSCRIPToBETHoGAMALt GARSHUNIoDALATHpOTLESS DALATH RISHoHE",
    "oWAWoZAINoHETHo$Ts GARSHUNIoYUDHs HEoKAPHoLAMADHoMIMoNUNoSEMKATHn* FINALoEoPEn$ REVERSEDoSADHEoQAPHoRISHoSHIN",
    "oTAWoPERSIAN BHETHwGHAMALwDHALATHhPTHAHA ABOVEoBELOWoDOTTEDhZQAPHA ABOVEoBELOWoDOTTEDhRBASA ABOVEnBELOW",
    "hDOTTED ZLAMA HORIZONTALuANGULARhHBASA ABOVEnBELOWm-ESASA DOTTEDhESASA ABOVEnBELOWhRWAHAhFEMININE DOThQUSHSHAYA",
    "hRUKKAKHAhTWO VERTICAL DOTS ABOVEzBELOWiHREE DOTS ABOVEsBELOWhOBLIQUE LINE ABOVEuBELOWhMUSIChBARREKH__",
    "hLETTER SOGDIAN ZHAINwKHAPHwFEaARABIC LETTER BEH WITH THREE DOTS HORIZONTALLY BELOW",
    "xDOT BELOW AND THREE DOTS ABOVExTHREE DOTS POINTING UPWARDS BELOWzzg AND TWO DOTS ABOVEy(WO DOTS BELOW AND DOT",
    "xINVERTED SMALL V BELOWxSMALL VoHAH WITH TWO DOTS ABOVEyHREE DOTS POINTING UPWARDS BELOW",
    "oDAL WITH TWO DOTS VERTICALLY BELOW AND SMALL TAHxINVERTED SMALL V BELOWoREH WITH STROKE",
    "oSEEN WITH FOUR DOTS ABOVEo.AIN WITH TWOy)HREE DOTS POINTING DOWNWARDy(WO DOTS VERTICALLY",
    "oFEH WITH TWO DOTS BELOWy)HREE DOTS POINTING UPWARDoKEHEH WITH DOT ABOVEz(THREE DOTSzlPOINTING UPWARDS BELOW",
    "oMEEM WITH DOT ABOVEzdBELOWo(NOON WITH TWO DOTSySMALL TAHzfVoLAM WITH BARoREH WITH TWO DOTS VERTICALLY ABOVE",
    "x(HAMZAo(SEEN WITH TWO DOTS VERTICALLYoHAH WITH SMALL ARABIC LETTER TAH BELOWzwAND TWO DOTSo|]SEENo|]REH",
    "oHAH WITH SMALL ARABIC LETTER TAH ABOVEo(ALEF WITH EXTENDED ARABIC-INDIC DIGIT TWOzzd(HREE",
    "o(FARSI YEH WITH EXTENDED ARABIC-INDIC DIGIT TWOzzi(HREEzzhFOUR BELOW",
    "oWAW WITH EXTENDED ARABIC-INDIC DIGIT TWO ABOVEzzc(HREEo(YEH BARREE WITH EXTENDED ARABIC-INDIC DIGIT TWOzzj(HREE",
    "oHAH WITH EXTENDED ARABIC-INDIC DIGIT FOUR BELOWoSEEN WITH EXTENDED ARABIC-INDIC DIGIT FOUR ABOVEyINVERTED V",
    "oKAF WITH TWO DOTS ABOVEaTHAANA LETTER HAAoSHAVIYANIoNOONUoRAAo#BoLHAVIYANIoKAAFUo#ALIoVAAVUoMEEMUoFAAFUoDHAALU",
    "oTHAAoLAAMUoGAAFUpNAVIYANIoSEENUoDAVIYANIo)Zo)ToYAAoPAVIYANIo)Jo)CHoTTAAo#HHo$KoTHAALUoZAAoSHEENUpAADHUo&DoTOoZO",
    "oAINUo%GHoQAAFUoWAAVUhABAFILIi&ABAh%IBIh%EEBEEh%UBUh%OOBOOh%EBEi%YBEYh%OBOi%ABOAhSUKUNhLETTER NAA"]),
  (0x7C0, ["aNKO DIGIT ZEROkONEkTWOlHREEkFOURlIVEkSIXlEVENkEIGHTkNINEeLETTER AlEElIlElUlOOlOlDAGBASINNAlNlBAlPAlTA",
    "lJAlCHAlDAlRAl#RlSAlGBAlFAlKAlLAlNA WOLOSOlMAlNYAmAlHAlWAlYAlNYA WOLOSOlJONA JAqCHAqRAeCOMBINING SHORT HIGH TONE",
    "u&LOWu&RISINGo*LONG DESCENDt&HIGHt&LOWt&RISINGoNASALIZATION MARKoDOUBLE DOT ABOVEeHIGH TONE APOSTROPHEe>LOW",
    "eSYMBOL OO DENNENl$GBAKURUeCOMMAeEXCLAMATION MARKeLAJANYALAN__e&DANTAfOROME SIGNe&TAMANaSAMARITAN LETTER ALAF",
    "rBITrGAMANrDALATrIYrBAArZENrITr#TrYUTrKAAFrLABATrMIMrNUNrSINGAATrINrFIrTSAADIYrQUFrRISHrSHANrTAAFkMARK INr-ALAF",
    "pOCCLUSIONpDAGESHlODIFIER LETTER EPENTHETIC YUTl=ARKkVOWEL SIGN LONG Eu#vOVERLONG AAv)u$vOVERLONG Av(u#",
    "k#MODIFIER LETTER SHORTk*VOWEL SIGNvLONG Uu#kMODIFIER LETTER Ik#VOWEL SIGN LONGu#vOvSUKUNkMARK NEQUDAA__",
    "k*PUNCTUATIONwAFSAAQxNGEDwBAUw#ATMAwSHIYYAALAAkABBREVIATION MARKkPUNCTUATION MELODIC QITSAwZIQAAwQITSAwZAEFwTURU",
    "wARKAANUwSOF MASHFAATwANNAAU_aMANDAIC LETTER HALQApABqGqDqHpUSHENNApAZpITpATTqKSAqK~~~qSpINpAPqSZqQ~qSHqT",
    "pDUSHENNApKADpAINiAFFRICATION MARKi,VOCALIZi,GEMIN__iPUNCTUATION_aSYRIAC LETTER MALAYALAM NGAyJAyNYAyTTAyNNAy$N",
    "yBHAyRAyLLAy$LySSA_____aARABIC LETTER ALEF WITH ATTACHED FATHAzh( TOP RIGHTyRIGHT MIDDLE STROKEy=LEF",
    "yATTACHED KASRAzh( BOTTOM RIGHTziROUND DOT ABOVEzjIGHT ROUND DOTzi.LEFziROUND DOT BELOWyDOT ABOVE",
    "x, ATTACHED TOP RIGHT FATHA ANDy<RIGHT MIDDLE STROKEy<ATTACHED BOTTOM RIGHT KASRAziTOP RIGHT FATHA AND LEFT RING",
    "y<RIGHT MIDDLE STROKEy<ATTACHED BOTTOM RIGHT KASRAziRIGHT HAMZAzi)LEFh(TATWEEL WITH OVERSTRUCKzgWAW",
    "uTWO DOTS BELOWhLETTER THIN YEHhBASELINE ROUND DOTh,RAISEDhLETTER NOON WITH INVERTED SMALL V",
    "oHAH WITH INVERTED SMALL V BELOWo(TAH WITH DOTx(THREE DOTSo(KEHEH WITH TWO DOTS VERTICALLYhVERTICAL TAIL_",
    "hPOUND MARK ABOVEi.IASTRE______hSMALL HIGH WORD AL-JUZnLOW WORD ISHMAAMxMAALAwTASHEELhMADDA WAAJIB",
    "hSUPERSCRIPT ALEF MOKHASSAShDOUBLED MADDAh(HALF MADDA OVERhLETTER BEH WITH SMALL V BELOWxHAMZA ABOVE",
    "o(JEEM WITH TWO DOTSo]TAHo.FEH WITH DOT BELOW AND THREEoQAF WITH DOT BELOWoLAM WITH DOUBLE BAR",
    "oMEEM WITH THREE DOTS ABOVEo(YEH WITH TWO DOTS BELOW AND HAMZAzr(DOToREH WITH LOOPoWAW WITH DOT WITHIN",
    "oROHINGYA YEHoLOW ALEFoDAL WITH THREE DOTS BELOWo|SADoGAF WITH INVERTED STROKEoSTRAIGHT WAW",
    "oZAIN WITH INVERTED V ABOVEoAIN WITH THREE DOTS BELOWo(KAF WITH DOToQAF WITH DOT BELOW AND NO DOTS ABOVE",
    "o(BEH WITH SMALL MEEMo|#Po(TEH WITH SMALL TEHo(REH WITH SMALL NOONo?YEH WITH TWO DOTS BELOW ANDoAFRICAN FEHwQAF",
    "wNOONoPEH WITH SMALL Vo=To>Tp=CHo>KEoGHAIN WITH THREE DOTS ABOVEo|AFRICAN QAFo|JEEMzkBELOW",
    "oLAM WITH SMALL ARABIC LETTER TAH ABOVEoGRAFhSMALL FARSI YEHm, HIGHsYEH BARREE WITH TWO DOTS BELOWsWORD SAHs#Z",
    "hLARGE ROUND DOT ABOVExBELOWh(SUKUNh(LARGE CIRCLEl<E ROUND DOT INSIDhSMALL LOW WAWnHIGH WORD AR-RUBsSADsAINsQAF",
    "sNOON WITH KASRAn>LOWnHIGH WORD ATH-THALATHAyS-SAJDAyN-NISFxSAKTAxQIFxWAQFAsFOOTNOTE MARKERsSIGN SAFHA",
    "hDISPUTED END OF AYAHhTURNED DAMMA BELOWhCURLY FATHAnDAMMAnKASRAnFATHATANn%DAMMn%KASRhTONE ONE DOT ABOVE",
    "m(TWO DOTSm(LOOPmONE DOT BELOWm(TWO DOTSm(LOOPhOPEN FATHATANm%DAMMm%KASRhSMALL HIGH WAWhFATHA WITH RING",
    "sDOT ABOVEhKASRA WITH DOT BELOWhLEFT ARROWHEAD ABOVEh?RIGHhLEFT ARROWHEAD BELOWh?RIGH",
    "hDOUBLE RIGHT ARROWHEAD ABOVEzk WITH DOTg|+h+DAMMAhMARK SIDEWAYS NOON GHUNNA",
    "aDEVANAGARI SIGN INVERTED CANDRABINDUp:qANUSVARAqVISARGAlLETTER SHORT Ar#tAsItIsUtUsVOCALIC Rz LsCANDRA Es#SHORT",
    "r#sAIsCANDRA Os#SHORTr#sAUsKAtHAsGAtHAsNGAsCAtHAsJAtHAsNYAsTTAuHAsDDAuHAsNNAsTAtHAsDAtHAsNAs#NNsPAtHAsBAtHAsMA",
    "sYAsRAs#RsLAs#Ls$LsVAsSHAtSAs#sHAlVOWEL SIGN OEw#OlSIGN NUKTAqAVAGRAHAlVOWEL SIGN AAwIxIwUxUwVOCALIC RzgR",
    "wCANDRA Ew#SHORTv#wAIwCANDRA Ow#SHORTv#wAUlSIGN VIRAMAlVOWEL SIGN PRISHTHAMATRA EwAWlOMlSTRESS SIGN UDATTAx(AN",
    "lGRAVE ACCENTl*ACUTlVOWEL SIGN CANDRA LONG EwUEw#UlLETTER QAsKHHAs$GsZAsDDDHAs#RsFAsYYAsVOCALIC RRz LL",
    "lVOWEL SIGN VOCALIC LzgLlDANDAk( DOUBLEmIGIT ZEROrONErTWOsHREErFOURsIVErSIXsEVENrEIGHTrNINElABBREVIATION SIGN",
    "lSIGN HIGH SPACING DOTlLETTER CANDRA AsOEs#OsAWsUEs#UsMARWARI DDAsZHAsHEAVY YAsGGAsJJAsGLOTTAL STOPsDDDAsBBA",
    "aBENGALI ANJIiSIGN CANDRABINDUnANUSVARAnVISARGA_iLETTER AqApIqIpUqUpVOCALIC RxL__pEpAI__pOpAUpKAqHApGAqHApNGApCA",
    "qHApJAqHApNYApTTArHApDDArHApNNApTAqHApDAqHApNA_pPAqHApBAqHApMApYApRA_pLA___pSHAqSAp#pHA__iSIGN NUKTAnAVAGRAHA",
    "iVOWEL SIGN AAtIuItUuUtVOCALIC RzdR__tEtAI__tOtAUiSIGN VIRAMAiLETTER KHANDA TA________iAU LENGTH MARK____",
    "iLETTER RRAqHA_pYYApVOCALIC RRxLLiVOWEL SIGN VOCALIC LzdL__iDIGIT ZEROoONEoTWOpHREEoFOURpIVEoSIXpEVENoEIGHToNINE",
    "iLETTER RA WITH MIDDLE DIAGONALx+LOWERiRUPEE MARKoSIGNiCURRENCY NUMERATOR ONEzcTWOzdHREEzcFOUR",
    "zcONE LESS THAN THE DENOMINATORrDENOMINATOR SIXTEENiISSHARiGANDA MARKiLETTER VEDIC ANUSVARAiABBREVIATION SIGN",
    "iSANDHI MARK__aGURMUKHI SIGN ADAK BINDIn(oVISARGA_jLETTER ArAqIrIqUrU____qEEqAI__qOOqAUqKArHAqGArHAqNGAqCArHAqJA",
    "rHAqNYAqTTAsHAqDDAsHAqNNAqTArHAqDArHAqNA_qPArHAqBArHAqMAqYAqRA_qLAq#L_qVAqSHA_rAqHA__jSIGN NUKTA_jVOWEL SIGN AA",
    "uIvIuUvU____uEEuAI__uOOuAUjSIGN VIRAMA___oUDAAT_______jLETTER KHHAq$GqZAqRRA_qFA_______jDIGIT ZEROpONEpTWOqHREE",
    "pFOURqIVEpSIXqEVENpEIGHTpNINEjTIPPIjADDAKjIRIjURAjEK ONKARjSIGN YAKASHjABBREVIATION SIGN"]),
  (0xA81, ["aGUJARATI SIGN CANDRABINDUoANUSVARAoVISARGA_jLETTER ArAqIrIqUrUqVOCALIC RyLjVOWEL CANDRA E_j#LETTERqAI",
    "jVOWEL CANDRA O_j#LETTERqAUqKArHAqGArHAqNGAqCArHAqJArHAqNYAqTTAsHAqDDAsHAqNNAqTArHAqDArHAqNA_qPArHAqBArHAqMAqYA",
    "qRA_qLAq#L_qVAqSHArSAq#qHA__jSIGN NUKTAoAVAGRAHAjVOWEL SIGN AAuIvIuUvUuVOCALIC RzeRuCANDRA E_t#uAIuCANDRA O_t#",
    "uAUjSIGN VIRAMA__jOM"]),
  (0xAE0, ["aGUJARATI LETTER VOCALIC RRyLLjVOWEL SIGN VOCALIC LzeL__jDIGIT ZEROpONEpTWOqHREEpFOURqIVEpSIXqEVENpEIGHT",
    "pNINEjABBREVIATION SIGNj&RUPEE_______jLETTER ZHAjSIGN SUKUNpHADDAoMADDAHoTHREE-DOT NUKTA ABOVEo:CIRCLEo@TWO-_",
    "aORIYA SIGN CANDRABINDUlANUSVARAlVISARGA_gLETTER AoAnIoInUoUnVOCALIC RvL__nEnAI__nOnAUnKAoHAnGAoHAnNGAnCAoHAnJA",
    "oHAnNYAnTTApHAnDDApHAnNNAnTAoHAnDAoHAnNA_nPAoHAnBAoHAnMAnYAnRA_nLAn#L_nVAnSHAoSAn#nHA__gSIGN NUKTAlAVAGRAHA",
    "gVOWEL SIGN AArIsIrUsUrVOCALIC RzRR__rErAI__rOrAUgSIGN VIRAMA_______lOVERLINEgAI LENGTH MARKh:U____gLETTER RRA",
    "oHA_nYYAnVOCALIC RRvLLgVOWEL SIGN VOCALIC LzLL__gDIGIT ZEROmONEmTWOnHREEmFOURnIVEmSIXnEVENmEIGHTmNINEgISSHAR",
    "gLETTER WAgFRACTION ONE QUARTERtHALFpTHREE QUARTERSpONE SIXTEENTHt#EIGHpTHREE SIXTEENTHS"]),
  (0xB82, ["aTAMIL SIGN ANUSVARAlVISARGA_gLETTER AoAnIoInUoU___nEoEnAI_nOoOnAUnKA___nNGAnCA_nJA_nNYAnTTA___nNNAnTA__",
    "_nNAn#NNnPA___nMAnYAnRAn#RnLAn#Ln$LnVAnSHAoSAn#nHA____gVOWEL SIGN AArIsIrUsU___rEsErAI_rOsOrAUgSIGN VIRAMA__gOM_",
    "_____gAU LENGTH MARK"]),
  (0xBE6, ["aTAMIL DIGIT ZEROmONEmTWOnHREEmFOURnIVEmSIXnEVENmEIGHTmNINEgNUMBER TENnONE HUNDREDrTHOUSANDgDAY SIGN",
    "g&MONTHg&YEARg&DEBITg)CREDg&AS ABOVEg(RUPEg&NUMBER_____bELUGU SIGN COMBINING CANDRABINDU ABOVEnANDRABINDU",
    "mANUSVARAmVISARGAmCOMBINING ANUSVARA ABOVEhLETTER ApAoIpIoUpUoVOCALIC RwL_oEpEoAI_oOpOoAUoKApHAoGApHAoNGAoCApHA",
    "oJApHAoNYAoTTAqHAoDDAqHAoNNAoTApHAoDApHAoNA_oPApHAoBApHAoMAoYAoRAo#RoLAo#Lo$LoVAoSHApSAo#oHA__hSIGN NUKTA",
    "mAVAGRAHAhVOWEL SIGN AAsItIsUtUsVOCALIC RzcR_sEtEsAI_sOtOsAUhSIGN VIRAMA_______hLENGTH MARKg: AI_hLETTER TSAoDZA",
    "oRRRA__oNAKAARA POLLU__oVOCALIC RRwLLhVOWEL SIGN VOCALIC LzcL__hDIGIT ZEROnONEnTWOoHREEnFOURoIVEnSIXoEVENnEIGHT",
    "nNINE_______hSIGN SIDDHAMhFRACTION DIGIT ZERO FOR ODD POWERS OF FOURw|ONE w|TWO x|HREE w=ONE FOR EVENw|#TWO",
    "x|#HREEhSIGN TUUMUaKANNADA SIGN SPACING CANDRABINDUm:nANUSVARAnVISARGAnSIDDHAMiLETTER AqApIqIpUqUpVOCALIC RxL_pE",
    "qEpAI_pOqOpAUpKAqHApGAqHApNGApCAqHApJAqHApNYApTTArHApDDArHApNNApTAqHApDAqHApNA_pPAqHApBAqHApMApYApRAp#RpLAp#L_",
    "pVApSHAqSAp#pHA__iSIGN NUKTAnAVAGRAHAiVOWEL SIGN AAtIuItUuUtVOCALIC RzdR_tEuEtAI_tOuOtAUiSIGN VIRAMA_______",
    "iLENGTH MARKh: AI______iLETTER NAKAARA POLLUpFA_pVOCALIC RRxLLiVOWEL SIGN VOCALIC LzdL__iDIGIT ZEROoONEoTWOpHREE",
    "oFOURpIVEoSIXpEVENoEIGHToNINE_iSIGN JIHVAMULIYAn$UPADHMAN"]),
  (0xD00, ["aMALAYALAM SIGN COMBINING ANUSVARA ABOVEqANDRABINDUpANUSVARApVISARGAkLETTER VEDIC ANUSVARArAsArIsIrUsU",
    "rVOCALIC RzL_rEsErAI_rOsOrAUrKAsHArGAsHArNGArCAsHArJAsHArNYArTTAtHArDDAtHArNNArTAsHArDAsHArNAr#NNrPAsHArBAsHArMA",
    "rYArRAr#RrLAr#Lr$LrVArSHAsSAr#rHArTTTAkSIGN VERTICAL BAR VIRAMAp+CIRCULpAVAGRAHAkVOWEL SIGN AAvIwIvUwUvVOCALIC R",
    "zfR_vEwEvAI_vOwOvAUkSIGN VIRAMAkLETTER DOT REPHkSIGN PARA____kLETTER CHILLU MyYyLLLkAU LENGTH MARK",
    "kFRACTION ONE ONE-HUNDRED-AND-SIXTIETHx&FORtTHREE EIGHTIETHStONE TWENTIETHy#ENtTHREE TWENTIETHStONE FIFTH",
    "kLETTER ARCHAIC IIrVOCALIC RRzLLkVOWEL SIGN VOCALIC LzfL__kDIGIT ZEROqONEqTWOrHREEqFOURrIVEqSIXrEVENqEIGHTqNINE",
    "kNUMBER TENrONE HUNDREDvTHOUSANDkFRACTION ONE QUARTERxHALFtTHREE QUARTERStONE SIXTEENTHx#EIGHtTHREE SIXTEENTHS",
    "kDATE MARKkLETTER CHILLU NNyNyRRyLzLyK_aSINHALA SIGN CANDRABINDUnANUSVARAYAn$VISARG_iLETTER AYANNAp(Aq&Eq(Ep&I",
    "p(Ip&Up(Up(IRr(Uq(Lr(Up&Ep(Ep&AIp&Op(Op&AU___q&LPAPRAANA KAp=MAHAp(ALPAPRAANA Gp=MAHApKANTAJA NAASIKYAYA",
    "pSANYAKA GAYANNAp(ALPAPRAANA Cp=MAHAp(ALPAPRAANA Jp=MAHApTAALUJA NAASIKYAYAx)SANYOOGA NAAKpSANYAKA JAYANNA",
    "p(ALPAPRAANA TTp>MAHAp(ALPAPRAANA DDp>MAHAq(UURDHAJA Np(SANYAKA DDp(ALPAPRAANA Tp=MAHAp(ALPAPRAANA Dp=MAHA",
    "p(DANTAJA N_p(SANYAKA Dp(ALPAPRAANA Pp=MAHAp(ALPAPRAANA Bp=MAHAq(p(AMBA Bp(Yp(R_p(DANTAJA L__p(Vp(TAALUJA S",
    "p,MUURDHAp.DANTp(Hp(MUURDHAJA Lp(F___i#SIGN AL-LAKU____iVOWEL SIGN AELA-PILLAt)KETTI AEDt.DIGAt(KETTI ISt+DIGA",
    "t(KETTI PAA_t,DIGA_t)GAETTtKOMBUVAs* DIGAtKOMBU DEKAyVA HAA AELA-PILLAze:A DIGzgGAYANUKITTAs:______",
    "iLITH DIGIT ZEROtONEtTWOuHREEtFOURuIVEtSIXuEVENtEIGHTtNINE__iVOWEL SIGN DIGA GAETTA-PILLAzAYANUKITTA",
    "iPUNCTUATION KUNDDALIYA"]),
  (0xE01, ["aTHAI CHARACTER KO KAIq#HO KHvUATvWAIvONtRAKHANGpNGO NGUpCHO CHANvINGv#ApSO SOpCHO CHOEpYO YINGpDO CHADA",
    "pTO PATAKqHO THANtNANGMONTHOtPHUTHAOpNO NENpDO DEKpTO TAOqHO THUNGvAHANvONGpNO NUpBO BAIMAIpPO PLAqHO PHUNG",
    "pFO FApPHO PHANp#FO FpPHO SAMPHAOpMO MApYO YAKpRO RUAqUpLO LINGqUpWO WAENpSO SALAsRUSIsSUApHO HIPpLO CHULApO ANG",
    "pHO NOKHUKpPAIYANNOIpSARA ApMAI HAN-AKATpSARA AAvMuIvIuUEwEuUvUpPHINTHU____gURRENCY SYMBOL BAHTgHARACTER SARA E",
    "uAEuOuAI MAIMUANzcALAIpLAKKHANGYAOpMAIYAMOKsTAIKHUs EKtTHOuRItCHATTAWApTHANTHAKHATpNIKHAHITpYAMAKKANp#FONGM",
    "fDIGIT ZEROlONElTWOmHREElFOURmIVElSIXmEVENlEIGHTlNINEfCHARACTER ANGKHANKHUpKHOMUT"]),
  (0xE81, ["aLAO LETTER KOmHO SUNG_pTAM_lPALI GHAlNGOlCOlPALI CHAlSO TAM_lPALI JHAlNYOlPALI NYAqTTAsHAqDDAsHAqNNAlDO",
    "lTOmHO SUNGpTAMlPALI DHAlNOlBOlPOmHO SUNGlFO TAMl&PHlFO SUNGlPALI BHAlMOlYOlLO LING_pOOT_lWOlSANSKRIT SHAvSA",
    "mO SUNGl(HlPALI LLAlOlHO TAMeELLIPSISeVOWEL SIGN ApMAI KANpAAqMpIqIpYqYpUqUeSIGN PALI VIRAMAeVOWEL SIGN MAI KON",
    "eSEMIVOWEL SIGN LOtNYO__eVOWEL SIGN EqIpOpAYqI_eKO LA_eTONE MAI EKnTHOoInCATAWAeCANCELLATION MARKeNIGGAHITA__",
    "eDIGIT ZEROkONEkTWOlHREEkFOURlIVEkSIXlEVENkEIGHTkNINE__eHO NOhMOeLETTER KHMU GOqNYO"]),
  (0xF00, ["aTIBETAN SYLLABLE OMiMARK GTER YIG MGO TRUNCATED Az -UM RNAM BCAD MAzf$GTER TSHEGn$INITIAL YIG MGO MDUN",
    "n$CLOSING YIG MGO SGABo$ARET YIG MGO PHUR SHADn*YIG MGO TSHEGnSBRUL SHADnBSKUR YIG MGOo*KA- SHOG",
    "nINTERSYLLABIC TSHEGnDELIMITER TSHEG BSTARnSHADm& NYISn&TSHEGm. NYISn&RIN CHEN SPUNGSo&GYA GRAM",
    "nCARET -DZUD RTAGS ME LONG CANnGTER TSHEGiLOGOTYPE SIGN CHAD RTAGSw(LHAGi(ASTROLOGICAL SIGN SGRA GCAN -CHAR",
    "z -KHYUD PAz SDONG TSHUGSiSIGN RDEL DKAR GCIGyNYISySUMsNAG GCIGxNYISsDKAR RDEL NAGiDIGIT ZEROoONEoTWOpHREEoFOUR",
    "pIVEoSIXpEVENoEIGHToNINEo#HALF OtTWOuHREEtFOURuIVEtSIXuEVENtEIGHTtNINEtZEROiMARK BSDUS RTAGSnNGAS BZUNG NYI ZLA",
    "nCARET -DZUD RTAGS BZHI MIG CANnNGAS BZUNG SGOR RTAGSnCHE MGOnTSA -PHRUnGUG RTAGS GYONzASnANG KHANG GYONzAS",
    "iSIGN YAR TSHESn*MiLETTER KAqHApGAqHApNGApCAqHApJA_pNYApTTArHApDDArHApNNApTAqHApDAqHApNApPAqHApBAqHApMApTSArHA",
    "pDZArHApWApZHAqAp-ApYApRApLApSHAqSAp#pHApApKSSApFIXED-FORM RApKKApRRA____iVOWEL SIGN AAtIuItUuUtVOCALIC RzdRzcL",
    "zdLtEuEtOuOiSIGN RJES SU NGA ROoNAM BCADiVOWEL SIGN REVERSED IzeIiSIGN NYI ZLA NAA DAnSNA LDANiMARK HALANTA",
    "n#PALUiSIGN LCI RTAGSn(YANGnLCE TSA CANn%MCHUnGRU CAN RGYINGSr*MEDnINVERTED MCHU CANj%UBJOINED SIGN LCE TSA",
    "x%MCHUw+ INVERTEDsLETTER KAzKHAzGAzGHAzNGAzCAzCHAzJA_zNYAzTTAzcHAzDDAzcHAzNNAzTAzTHAzDAzDHAzNAzPAzPHAzBAzBHAzMA",
    "zTSAzcHAzDZAzcHAzWAzZHAzZAz-AzYAzRAzLAzSHAzSSAz#zHAzAzKSSAzFIXED-FORM WAzlYAzlRA_iKU RU KHAr BZHI MIG CAN",
    "iCANTILLATION SIGN HEAVY BEATz& LIGHTz CANG TE-Uz SBUB -CHALiSYMBOL DRIL BUpRDO RJEpPADMA GDANpRDO RJE RGYA GRAM",
    "pPHUR PApNOR BUv NYIS -KHYILw)GSUMw)BZHI_jIGN RDEL NAG RDEL DKARwGSUMiMARK BSKA- SHOG GI MGO RGYANn<MNYAM YI",
    "nNYIS TSHEGnINITIAL BRDA RNYING YIG MGO MDUN MAn$CLOSING BRDA RNYING YIG MGO SGABaRIGHT-FACING SVASTI SIGNa]LEF",
    "aRIGHT-FACING SVASTI SIGN WITH DOTSa|*LEFaTIBETAN MARK LEADING MCHAN RTAGSn=TRAIL"]),
  (0x1000, ["aMYANMAR LETTER KAqHApGAqHApNGApCAqHApJAqHApNYAp$NpTTArHApDDArHApNNApTAqHApDAqHApNApPAqHApBAqHApMApYA",
    "pRApLApWApSApHApLLApAo# SHANpIqIpUqUpEo# MONpOpAUiVOWEL SIGN TALL AAs$tIuItUuUtEtAItMON IIxOtE ABOVE",
    "iSIGN ANUSVARAnDOT BELOWnVISARGApRAMAnASATiCONSONANT SIGN MEDIAL YAzfRAzfWAzfHAiLETTER GREAT SAiDIGIT ZEROoONE",
    "oTWOpHREEoFOURpIVEoSIXpEVENoEIGHToNINEiSIGN LITTLE SECTIONm*jYMBOL LOCATIVEpCOMPLETEDp#AFOREMENTIONpGENITIVE",
    "iLETTER SHAqSApVOCALIC RyRxLyLiVOWEL SIGN VOCALIC RzdRzcLzdLiLETTER MON NGAtJHAtBBAvE",
    "iCONSONANT SIGN MON MEDIAL NAzjMAzjLAiLETTER SGAW KAREN SHAiVOWEL SIGN SGAW KAREN EUiTONE MARK SGAW KAREN HATHI",
    "zeKE PHOiLETTER WESTERN PWO KAREN THAziPWAiVOWEL SIGN WESTERN PWO KAREN EUzmUEiSIGN WESTERN PWO KAREN TONE-1~~~~",
    "iLETTER EASTERN PWO KAREN NNAziYWAzi#GHiVOWEL SIGN GEBA KAREN ItKAYAH OEzUzEEiLETTER SHAN KAvHAuGAuCAuZAuNYAuDA",
    "uNAuPHAuFAuBAuTHAu#iCONSONANT SIGN SHAN MEDIAL WAiVOWEL SIGN SHAN AAyEz ABOVEyFINAL YiSIGN SHAN TONE-2~x5~",
    "sCOUNCIL TONE-2~z EMPHATIC TONEiLETTER RUMAI PALAUNG FAiSIGN RUMAI PALAUNG TONE-5jHAN DIGIT ZEROtONEtTWOuHREE",
    "tFOURuIVEtSIXuEVENtEIGHTtNINEjIGN KHAMTI TONE-1z3iVOWEL SIGN AITON AzAIiSYMBOL SHAN ONEuEXCLAMATION",
    "aGEORGIAN CAPITAL LETTER ANy#By#GyDONyENyVINyZENyTANyINyKANyLASyMANyNARyONyPARy#ZHyRAEySANyTARyUNyPHARy$KyGHAN",
    "yQARySHINy$CzANyJILy#CzHARyXANy#JHyHAEzEzIEyWEyHARzOE_yYN_____yAEN__jLETTER ANq#Bq#GqDONqENqVINqZENqTANqINqKAN",
    "qLASqMANqNARqONqPARq#ZHqRAEqSANqTARqUNqPHARq$KqGHANqQARqSHINq$CrANqJILq#CrHARqXANq#JHqHAErErIEqWEqHARrOEqFIqYN",
    "qELIFIqTURNED GANqAINjPARAGRAPH SEPARATORaMODIFIER LETTER GEORGIAN NARaGEORGIAN LETTER AENqHARD SIGNq&LABIAL",
    "aHANGUL CHOSEONG KIYEOKq(SSANGqNIEUNqTIKEUTq(SSANGqRIEULqMIEUMqPIEUPq&SSANGrIOSq%SSANGqIEUNGqCIEUCq&SSANG",
    "qCHIEUCHqKHIEUKHqTHIEUTHqPHIEUPHqHIEUHqNIEUN-KIYEOKqSSANGNIEUNqNIEUN-TIKEUTwPIEUPqTIKEUT-KIYEOKqRIEUL-NIEUN",
    "qSSANGRIEULqRIEUL-HIEUHqKAPYEOUNRIEULqMIEUM-PIEUPqKAPYEOUNMIEUMqPIEUP-KIYEOKwNIEUNwTIKEUTwSIOSzS-KIYEOKzcTIKEUT",
    "zcPIEUPxSANGSIOSxIOS-CIEUCv(xHIEUCHwTHIEUTHwPHIEUPHqKAPYEOUNPIEUPy&SSANGqSIOS-KIYEOKvNIEUNvTIKEUTvRIEULvMIEUM",
    "vPIEUPzP-KIYEOKvSSANGSIOSvIEUNGvCIEUCwHIEUCHvKHIEUKHvTHIEUTHvPHIEUPHvHIEUHqCHITUEUMSIOSy%SSANGr%EONGCHIEUM",
    "zc%SSANGq%PANqIEUNG-KIYEOKwTIKEUTwMIEUMwPIEUPwSIOSw%PANqSSANGIEUNGqIEUNG-CIEUCxHIEUCHwTHIEUTHwPHIEUPHqYESIEUNG",
    "q&CIEUC-rHITUEUMCIEUCy&SSANGr&EONGCHIEUMzc&SSANGrHIEUCH-KHIEUKHyHIEUHtTUEUMCHIEUCHr,EONGCHIqPHIEUPH-PIEUP",
    "qKAPYEOUNPHIEUPHqSSANGHIEUHq&YEORINqKIYEOK-TIKEUTqNIEUN-SIOSwCIEUCwHIEUHqTIKEUT-RIEULqFILLERh:JUNGrAsErYAtErEOrE",
    "rYEOsErOrWAtErOErYOrUrWEOsEsIrYUrEUrYIrIrA-OtUrYA-OuYOrEO-OuUuEUrYEO-OvUrO-EOtEtYEtOtUrYO-YAwEvEOuOuIrU-AuE",
    "tEO-EUtYEtUrYU-AuEOuEuYEOvEuUuIrEU-UuEUrYI-UrI-AtYAtOtUtEUtARAEAr&w-EOxUxIrSSANGARAEArA-EUrYA-UsEO-YAr%vE",
    "iONGSEONG KIYEOKr(SSANGrKIYEOK-SIOSrNIEUNw-CIEUCxHIEUHrTIKEUTrRIEULw-KIYEOKxMIEUMxPIEUPxSIOSxTHIEUTHxPHIEUPH",
    "xHIEUHrMIEUMrPIEUPw-SIOSr%r%SSANGrIEUNGrCIEUCsHIEUCHrKHIEUKHrTHIEUTHrPHIEUPHrHIEUHrKIYEOK-RIEULySIOS-KIYEOK",
    "r)NIEUNxTIKEUTxSIOSx%PANxTHIEUTHrTIKEUT-KIYEOKyRIEULrRIEUL-KIYEOK-SIOSxNIEUNxTIKEUTze-HIEUHrSSANGRIEUL",
    "rRIEUL-MIEUM-KIYEOKzeSIOSx&PIEUPzeHIEUHxKAPYEOUNPIEUPxSSANGSIOSx%PANxKHIEUKHxYEORINHIEUHrMIEUM-KIYEOKxRIEUL",
    "xPIEUPxSIOSx%SSANGx%PANxCHIEUCHxHIEUHrKAPYEOUNMIEUMrPIEUP-RIEULxPHIEUPHxHIEUHrKAPYEOUNPIEUPrSIOS-KIYEOKwTIKEUT",
    "wRIEULwPIEUPrPANSIOSrIEUNG-KIYEOKx(SSANGrSSANGIEUNGrIEUNG-KHIEUKHrYESIEUNGz-SIOSz%-PANrPHIEUPH-PIEUP",
    "rKAPYEOUNPHIEUPHrHIEUH-NIEUNxRIEULxMIEUMxPIEUPrYEORINHIEUHrKIYEOK-NIEUNyPIEUPyCHIEUCHyKHIEUKHyHIEUHrSSANGNIEUN",
    "aETHIOPIC SYLLABLE HAtUtItAAtEEtEtOuAsLAtUtItAAtEEtEtOtWAsHHAuUuIuAAuEEuEuOuWAsMAtUtItAAtEEtEtOtWAsSZAuUuIuAAuEE",
    "uEuOuWAsRAtUtItAAtEEtEtOtWAsSAtUtItAAtEEtEtOtWAtHAuUuIuAAuEEuEuOuWAsQAtUtItAAtEEtEtOuAtWA_uIuAAuEEuE__tHAuUuIuAA",
    "uEEuEuO_uWA_vIvAAvEEvE__sBAtUtItAAtEEtEtOtWAsVAtUtItAAtEEtEtOtWAsTAtUtItAAtEEtEtOtWAsCAtUtItAAtEEtEtOtWAsXAtUtI",
    "tAAtEEtEtOuAtWA_uIuAAuEEuE__sNAtUtItAAtEEtEtOtWAtYAuUuIuAAuEEuEuOuWAsGLOTTAL Az Uz Iz AAz EEz Ez Oz WAsKAtUtItAA",
    "tEEtEtOuAtWA_uIuAAuEEuE__tXAuUuIuAAuEEuEuO_uWA_vIvAAvEEvE__sWAtUtItAAtEEtEtOuAsPHARYNGEAL AzeUzeIzeAAzeEEzeEzeO_",
    "sZAtUtItAAtEEtEtOtWAtHAuUuIuAAuEEuEuOuWAsYAtUtItAAtEEtEtOuAsDAtUtItAAtEEtEtOtWAtDAuUuIuAAuEEuEuOuWAsJAtUtItAAtEE",
    "tEtOtWAsGAtUtItAAtEEtEtOuAtWA_uIuAAuEEuE__tGAuUuIuAAuEEuEuOuWAAsTHAuUuIuAAuEEuEuOuWAsCHAuUuIuAAuEEuEuOuWAsPHAuU",
    "uIuAAuEEuEuOuWAsTSAuUuIuAAuEEuEuOuWAtZAuUuIuAAuEEuEuOvAsFAtUtItAAtEEtEtOtWAsPAtUtItAAtEEtEtOtWAsRYAs#Ms#F__",
    "jCOMBINING GEMINATION AND VOWEL LENGTH MARKs@t&GEMINATIONj+SECjWORDSPACEjFULL STOPjCOMMAjSEMICOLONj&i( PREFACE",
    "jQUESTION MARKjPARAGRAPH SEPARATORjDIGIT ONEpTWOqHREEpFOURqIVEpSIXqEVENpEIGHTpNINEjNUMBER TENrWENTYr#HIRq$FOr#IF",
    "q#SIXr#EVENq#EIGHq#NINEqHUNDREDqTEN THOUSAND___jSYLLABLE SEBATBEIT MWAsMWIuEEuEsSEBATBEIT BWAsBWIuEEuE",
    "sSEBATBEIT FWAsFWIuEEuEsSEBATBEIT PWAsPWIuEEuEjTONAL MARK YIZETu#DERuRIKRIKt) SHORTuDIFATu#KENuCHIRETu#HID",
    "u&DERET-uKURT______aCHEROKEE LETTER AqEqIqOqU~qGAqKAqGErIrOrU~qHArErIrOrU~qLArErIrOrU~qMArErIrOrUqNAq#HqNAHrErI",
    "rOrU~qQUAsEsIsOsU~qSAqSrErIrOrU~qDAqTAqDEqTEqDIqTIqDOrU~rLAq#TsEsIsOsU~rSAsEsIsOsU~qWArErIrOrU~qYArErIrOrU~qMV__",
    "jSMALL LETTER YExIxOxU~wMV__bANADIAN SYLLABICS HYPHENtEtAAItIuItOuOs$ Y-CREEtCARRIER EEzcItAuAtWEvST-CREE WEuI",
    "s$ WEST-CREEuIIs% WEST-CREEuOs$ WEST-CREEuOOs% WEST-CREEt%NASKAPItWAs$ WEST-CREEuAAs% WEST-CREEt%NASKAPItAI",
    "tY-CREE WtGLOTTAL STOPtFINAL ACUTEzGRAVEzBOTTOM HALF RINGz,TOPz,RIGHTy&zDOUBLE ACUTEzhSHORT VERTICAL STROKES",
    "zMIDDLE DOTzSHORT HORIZONTAL STROKEzPLUSzDOWN TACKtENtINtONtANtPEuAAIuIvIuOvOs% Y-CREEtCARRIER HEEzdItPAvAuWE",
    "s% WEST-CREEtPWIs% WEST-CREEtPWIIs& WEST-CREEtPWOs% WEST-CREEtPWOOs& WEST-CREEtPWAs% WEST-CREEtPWAAs& WEST-CREE",
    "t,YtPs# WEST-CREEtCARRIER HtTEuAAIuIvIuOvOs% Y-CREEtCARRIER DEEzdItTAvAuWEs% WEST-CREEtTWIs% WEST-CREEtTWII",
    "s& WEST-CREEtTWOs% WEST-CREEtTWOOs& WEST-CREEtTWAs% WEST-CREEtTWAAs& WEST-CREEt&NASKAPItTuTEvIvOvAtKEuAAIuIvIuO",
    "vOs% Y-CREEtKAvAuWEs% WEST-CREEtKWIs% WEST-CREEtKWIIs& WEST-CREEtKWOs% WEST-CREEtKWOOs& WEST-CREEtKWA",
    "s% WEST-CREEtKWAAs& WEST-CREEt&NASKAPItKuWtSOUTH-SLAVEY KEHziIHziOHziAHtCEuAAIuIvIuOvOs% Y-CREEtCAvAuWE",
    "s% WEST-CREEtCWIs% WEST-CREEtCWIIs& WEST-CREEtCWOs% WEST-CREEtCWOOs& WEST-CREEtCWAs% WEST-CREEtCWAAs& WEST-CREE",
    "t&NASKAPItCtSAYISI THtMEuAAIuIvIuOvOs% Y-CREEtMAvAuWEs% WEST-CREEtMWIs% WEST-CREEtMWIIs& WEST-CREEtMWO",
    "s% WEST-CREEtMWOOs& WEST-CREEtMWAs% WEST-CREEtMWAAs& WEST-CREEt&NASKAPItMs# WEST-CREEtMHtATHAPASCAN Mt#SAYISItNE",
    "uAAIuIvIuOvOs% Y-CREEtNAvAuWEs% WEST-CREEtNWAs% WEST-CREEtNWAAs& WEST-CREEt&NASKAPItNtCARRIER NGtNHtLEuAAIuIvIuO",
    "vOs% Y-CREEtLAvAuWEs% WEST-CREEtLWIs% WEST-CREEtLWIIs& WEST-CREEtLWOs% WEST-CREEtLWOOs& WEST-CREEtLWA",
    "s% WEST-CREEtLWAAs& WEST-CREEtLs# WEST-CREEt#MEDIALtSEuAAIuIvIuOvOs% Y-CREEtSAvAuWEs% WEST-CREEtSWIs% WEST-CREE",
    "tSWIIs& WEST-CREEtSWOs% WEST-CREEtSWOOs& WEST-CREEtSWAs% WEST-CREEtSWAAs& WEST-CREEt&NASKAPItSs# ATHAPASCANtSW",
    "tBLACKFOOT StMOOSE-CREE SKtNASKAPI SKWzd-WzdPWAzd#Tzd#Kzd#CtSHEvIwIvOwOvAwAvWEs& WEST-CREEtSHWIs& WEST-CREE",
    "tSHWIIs( WEST-CREEtSHWOs& WEST-CREEtSHWOOs( WEST-CREEtSHWAs& WEST-CREEtSHWAAs( WEST-CREEtSHtYEuAAIuIvIuOvO",
    "s% Y-CREEuAvAuWEs% WEST-CREEtYWIs% WEST-CREEtYWIIs& WEST-CREEtYWOs% WEST-CREEtYWOOs& WEST-CREEtYWAs% WEST-CREE",
    "tYWAAs& WEST-CREEt&NASKAPItYs# BIBLE-CREEt)WESTtSAYISI YItREs$ R-CREEtWEST-CREE LEtRAAIuIvIuOvOtWEST-CREE LOtRA",
    "vAtWEST-CREE LAtRWAAs& WEST-CREEtRs# WEST-CREEt#MEDIALtFEuAAIuIvIuOvOuAvAu#Ws& WEST-CREEtFtTHEs% N-CREEtTHI",
    "s% N-CREEtTHIIs& N-CREEtTHOwOvAwAv#Ws( WEST-CREEtTHuTHEwIwOwAvHuYEvIvOvAtNUNAVIK HEzdIzeIzdOzeOzdAzeAzcHy#UTtHK",
    "tQAAIuIvIuOvOuAvAtQtTLHEwIwOwAtWEST-CREE REzfIzfOzfAtNGAAIvIwIvOwOvAwAuGt#NtSAYISI SHEzdIzdOzdAtWOODS-CREE THE",
    "zhIzhOzhAzgHtLHIwIvOwOvAwAuHtTH-CREE THEzeIzfIzeOzfOzeAzfAzdHtAIVILIK BtBLACKFOOT EzeIzeOzeAzeWEzfIzfOzfAzeNEzfI",
    "zfOzfAzeKEzfIzfOzfAtSAYISI HEzcIzcOzcAtCARRIER GHUzeOzeEzfEzeIzeAzcRUzdOzdEzeEzdIzdAzcWUzdOzdEzeEzdIzdAzcHWUzeO",
    "zeEzfEzeIzeAzcTHUzeOzeEzfEzeIzeAzdTUzeOzeEzfEzeIzeAzcPUzdOzdEzeEzdIzdAzcPzcGUzdOzdEzeEzdIzdAzcKHUzeOzeEzfEzeIzeA",
    "zdKUzeOzeEzfEzeIzeAzdKzcNUzdOzdEzeEzdIzdAzcMUzdOzdEzeEzdIzdAzcYUzdOzdEzeEzdIzdAzcJUt$SAYISItCARRIER JOzdEzeEzdI",
    "t$SAYISItCARRIER JAzdJUzeOzeEzfEzeIzeAzcLUzdOzdEzeEzdIzdAzcDLUzeOzeEzfEzeIzeAzcLHUzeOzeEzfEzeIzeAzcTLHUzfOzfEzgE",
    "zfIzfAzeUzeOzeEzfEzeIzeAzcZUzdOzdEzeEzdIzdAzcZz#R INITIALzcDZUzeOzeEzfEzeIzeAzcSUzdOzdEzeEzdIzdAzdHUzeOzeEzfEzeI",
    "zeAzdHzcTSUzeOzeEzfEzeIzeAzcCHUzeOzeEzfEzeIzeAzcTTSUzfOzfEzgEzfIzfAuHI SIGNtFULL STOPtQAIt#NGuNGIxIwOxOwAxA",
    "tWOODS-CREE THWEEziIzjIziOzjOziAzjAzfFINAL THtBLACKFOOT WaOGHAM SPACE MARKgLETTER BEITHnLUISnFEARNnSAILnNION",
    "nUATHnDAIRnTINNEnCOLLoEIRTnMUINnGORTnNGEADALnSTRAIFnRUISnAILMnONNnURnEADHADHn&IOn%EABnORnUILLEANNnIFIN",
    "nEAMHANCHOLLnPEITHgFEATHER MARKf; REVERSED___aRUNIC LETTER FEHU FEOH FE FnVnURUZ UR UnYRnYnW",
    "nTHURISAZ THURS THORNnETHnANSUZ AnOS OnAC AoESCnLONG-BRANCH-OSS On(SHORT-TWIGm#oEoNnRAIDO RAD REID RnKAUNAnCEN",
    "nKAUN KnGnENGnGEBO GYFU GoARnWUNJO WYNN WnHAGLAZ Hp#EGLn$LONG-BRANCH-HAGALn+SHORT-TWIGnNAUDIZ NYD NAUD N",
    "n(SHORT-TWIG-nDOTTED-NnISAZ IS ISS InEnJERAN JnGERnLONG-BRANCH-AR AEnSHORT-TWIG-AR AnIWAZ EOHnPERTHO PEORTH P",
    "nALGIZ EOLHXnSOWILO So#IGEL LONG-BRANCH-SOLo(HORT-TWIGnCnZnTIWAZ TIR TYR Tn&SHORT-TWIG-nD",
    "nBERKANAN BEORC BJARKAN Bn+SHORT-TWIG-nDOTTED-Pn#OPENnEHWAZ EH EnMANNAZ MAN Mn#LONG-BRANCH-MADRn)SHORT-TWIG",
    "nLAUKAZ LAGU LOGR LnDOTTED-LnINGWAZpGnDAGAZ DAEG DnOTHALAN ETHEL OnEARnIORnCWEORTHoALCo$EnSTANnLONG-BRANCH-YR",
    "n$SHORT-TWIGn$ICELANDICnQnXgSINGLE PUNCTUATIONg<MULTIPg:CROSSgARLAUG SYMBOLg)TVIMADURg*BELGTHOgLETTER KnSHnOO",
    "nFRANKS CASKET OSzcISzcEHzcACzdESC_______aTAGALOG LETTER ApIpUpKApGAp#NpTApDApNApPApBApMApYApRApLApWApSApHA",
    "iVOWEL SIGN ItUiSIGN VIRAMAnPAMUDPOD"]),
  (0x171F, ["aTAGALOG LETTER ARCHAIC RAaHANUNOO LETTER ApIpUpKApGAp#NpTApDApNApPApBApMApYApRApLApWApSApHA",
    "iVOWEL SIGN ItUiSIGN PAMUDPODaPHILIPPINE SINGLE PUNCTUATIONl<DOUB"]),
  (0x1740, ["aBUHID LETTER AnInUnKAnGAn#NnTAnDAnNAnPAnBAnMAnYAnRAnLAnWAnSAnHAgVOWEL SIGN IrU"]),
  (0x1760, ["aTAGBANWA LETTER AqIqUqKAqGAq#NqTAqDAqNAqPAqBAqMAqYA_qLAqWAqSA_jVOWEL SIGN IuU"]),
  (0x1780, ["aKHMER LETTER KAoHAoOoHOnNGOnCAoHAoOoHOnNYOnDAnTTHAnDOnTTHOnNNOnTAoHAoOoHOnNOnBAnPHAoOoHOnMOnYOnROnLO",
    "nVOnSHAoSOoAnHAnLAnQAgINDEPENDENT VOWEL QAQzAAzIzIIzUzUKzUUzcVyRYzYYyLYzYYyQEzAIzOO TYPE ONEziTWOzAU",
    "gVOWEL INHERENT AQwAm$SIGNrIsIrYsYrUsUsArOErYArIErErAEsIrOOrAUgSIGN NIKAHITlREAHMUKlYUUKALEAPINTUlMUUSIKATOAN",
    "lTRIISAPlBANTOClROBATl#TOANDAKHIl#KAKABlAHSDAlSAMYOK SANNYAlVIRIAMlCOENGlBATHAMASATlKHANl#BARIYOOS",
    "lCAMNUC PII KUUHlLEK TOOlBEYYALlPHNAEK MUANlKOOMUUTgCURRENCY SYMBOL RIELgSIGN AVAKRAHASANYAmTTHACAN__gDIGIT ZERO",
    "mONEmTWOnHREEmFOURnIVEmSIXnEVENmEIGHTmNINE______gSYMBOL LEK ATTAK SONxMUOYxPIIxBEIyUONxPRAMzc-MUOYzdPIIzdBEI",
    "zeUON______aMONGOLIAN BIRGAkELLIPSISkCOMMAkFULL STOPkCOLONkFOUR DOTSkTODO SOFT HYPHEN",
    "kSIBE SYLLABLE BOUNDARY MARKERkMANCHU COMMArFULL STOPkNIRUGUkFREE VARIATION SELECTOR ONEzjTWOzkHREE",
    "kVOWEL SEPARATORkFREE VARIATION SELECTOR FOURkDIGIT ZEROqONEqTWOrHREEqFOURrIVEqSIXrEVENqEIGHTqNINE______",
    "kLETTER ArErIrOrUrOErUErEErNArANGrBArPArQArGArMArLArSAsHArTArDArCHArJArYArRArWArFArKAsHArTSArZArHAArZRArLHArZHI",
    "r#CrTODO LONG VOWEL SIGNwEwIwOwUwOEwUEwANGwBAwPAwQAwGAwMAwTAwDAwCHAwJAwTSAwYAwWAwKAwGAAw#HwJIAw#NwDZArSIBE EwIxY",
    "wUEwUwANGwKAwGAwHAwPAwSHAwTAwDAwJAwFAwGAAw#HwTSAwZAwRAAwCHAw#ZrMANCHU IyKAyRAyFAyZHArCHA WITH TWO DOTS_______",
    "rALI GALI ANUSVARA ONEz& VISARGz DAMARUz UBADAMAz* INVERTEDz BALUDAz) THREEz Az Iz KAz NGAz CAz TTAzdHAz DDA",
    "z NNAz TAz DAz PAzcHAz SSAz ZHAzcAz AHrTODO ALI GALI TAzgZHAr#MANCHU ALI GALI GziNGAziCAziJHAziTTAziDDHAziTA",
    "ziDHAziSSAziCYAziZHAzjArALI GALI HALF UzgYArMANCHU ALI GALI BHArALI GALI DAGALGArMANCHU ALI GALI LHA_____",
    "aCANADIAN SYLLABICS OYtAYt#At#WtPOYuAYuWOYtTAYt#Ku#Wt#MtNOYuAYt#LtSOYuAYuHOYvAYvWOYt#YuAYt#RtNWIs% OJIBWAYtNWII",
    "s& OJIBWAYtNWOs% OJIBWAYtNWOOs& OJIBWAYtRWEEvIwIvOwOvAtOJIBWAY PzcTzcKzcCzcM~zcSzdHtEASTERN Wt)WE",
    "tFINAL SMALL RINGzRAISED DOTtR-CREE RWEtWEST-CREE LOOzfAAtTHWEwAuTHWEwOOwAAuLHWEwOOtSAYISI SHWEzdOOz$ ",
    "tCARRIER GWUzcDENE GEEzcGAAzdWAtSAYISI JUUtCARRIER JWAtBEAVER DENE LzgRtCARRIER DENTAL S"]),
  (0x1900, ["aLIMBU VOWEL-CARRIER LETTERgLETTER KAoHAnGAoHAnNGAnCAoHAnJAoHAnYANnTAoHAnDAoHAnNAnPAoHAnBAoHAnMAnYAnRA",
    "nLAnWAnSHAoSAn#nHAnGYANnTRA_gVOWEL SIGN ArIrUrEErAIrOOrAUrErOgSUBJOINED LETTER YAxRAxWA____hMALL LETTER KAtNGA",
    "tANUSVARAtTAtNAtPAtMAtRAtLAhIGN MUKPHRENGl(KEMlSA-I____lLOO___gEXCLAMATION MARKg+QUESgDIGIT ZEROmONEmTWOnHREE",
    "mFOURnIVEmSIXnEVENmEIGHTmNINEaTAI LE LETTER KAoXAoNGAoTSAo#oYAoTApHAoLAoPApHAoMAoFAoVAoHAoQAoKHAo#TSoNAoAoIoEEpH",
    "oUoOOoOoUEoEoAUEpI__oTONE-2~~~~"]),
  (0x1980, ["aNEW TAI LUE LETTER HIGH QAt$LOWtHIGH KAyXAyNGAtLOW KAxXAxNGAtHIGH TSAy#yYAtLOW TSAx#xYAtHIGH TAzHAyNA",
    "tLOW TAyHAxNAtHIGH PAzHAyMAtLOW PAyHAxMAtHIGH FAyVAyLAtLOW FAxVAxLAtHIGH HAyDAyBAtLOW HAxDAxBAtHIGH KVAy#X",
    "t#LOW Kx#XtHIGH SUAt%LOW____mVOWEL SIGN VOWEL SHORTENERxAAxIIxUyUxExAExOyAxUExAYx#AxUYxOYyAYxUEYxIY",
    "mLETTER FINAL VzNGzNzMzKzDzBmTONE MARK-1~______mDIGIT ZEROsONEsTWOtHREEsFOURtIVEsSIXtEVENsEIGHTsNINE",
    "m#THAM DIGIT O___mSIGN LAEuVaKHMER SYMBOL PATHAMASATnMUOY KOETn&PIIn(BEo&UONn&PRAMr&-MUOYs&PIIs(BEt&UONn&DAP",
    "q&-MUOYr&PIIr(BEs&UONr&PRAMnTUTEYASATnMUOY ROCn%PIIn&BEo%UONn%PRAMr%-MUOYs%PIIs&BEt%UONn%DAPq%-MUOYr%PIIr&BE",
    "s%UONr%PRAMaBUGINESE LETTER KAqGAq#NsKAqPAqBAqMArPAqTAqDAqNArRAqCAqJAqNYAsCAqYAqRAqLAqVAqSAqAqHAjVOWEL SIGN IuU",
    "uEuOuAE__jPALLAWAjEND OF SECTIONaTAI THAM LETTER HIGH KAwHAwXAqLOW KAvXAvHAqNGAqHIGH CAwHAqLOW CAuSAuCHAqNYA",
    "qRATAqHIGH RATHAqDAqLOW RATHAqRANAqHIGH TAwHAqLOW TAvHAqNAqBAqHIGH PAwHAvFAqLOW PAuFAuPHAqMAqLOW YAq$HIGHqRArUE",
    "qLArUEqWAqHIGH SHAwSAv#vHAqLLAqAqLOW HAqIrIqUrUqEEqOOqLAEqGREAT SAjCONSONANT SIGN MEDIAL RAzgLAyLA TANG LAI",
    "j)SIGN MAI KjCONSONANT SIGN FINAL NGAyLOW PAx) HIGH RATHA ORyMAyBAySA_jSIGN SAKOTjVOWEL SIGN AuMAI SATuAAt$ TALL",
    "uIvIuUEu#UuUvUuOvA BELOWvYuEuAEuOOuAIt$ THAMuOA ABOVEjSIGN MAI KANGoTONE-1~oKHUEN TONE-3~~oRA HAAMo#MAI S",
    "oKHUEN-LUE KARAN__jCOMBINING CRYPTOGRAMMIC DOTjHORA DIGIT ZEROuONEuTWOvHREEuFOURvIVEuSIXvEVENuEIGHTuNINE______",
    "jTHAM DIGIT ZEROuONEuTWOvHREEuFOURvIVEuSIXvEVENuEIGHTuNINE______jSIGN WIANGtWAAKoSAWANoKEOWoHOYoDOKMAI",
    "oREVERSED ROTATED RANAoMAI YAMOKoKAANsKUUoSATKAANvKUUoHANGo$CA__aCOMBINING DOUBLED CIRCUMFLEX ACCENT",
    "lIAERESIS-RINGkINFINITYkDOWNWARDS ARROWkTRIPLE DOTkX-X BELOWk(WIGGLY LINEk(OPEN MARKj> DOUBLE",
    "k(LIGHT CENTRALIZATION STROKEk|(STRONGkPARENTHESES ABOVEj@ DOUBLEkPARENTHESES BELOWwOVERLAY",
    "kLATIN SMALL LETTER W BELOWzd* TURNEDlEFT PARENTHESIS ABOVE LEFTkRIGHT PARENTHESIS ABOVE RIGHT",
    "kLEFT PARENTHESIS BELOW LEFTkRIGHT PARENTHESIS BELOW RIGHTkSQUARE BRACKETS ABOVEk(NUMBER SIGN",
    "k(INVERTED DOUBLE ARCHk(PLUS SIGNj> DOUBLEzcBELOWkTRIPLE ACUTE ACCENTkLATIN SMALL LETTER INSULAR GzmRzmT"]),
  (0x1B00, ["aBALINESE SIGN ULU RICEMsCANDRAoCECEKoSURANGoBISAHjLETTER AKARAv TEDUNGqIKARAv TEDUNGqUKARAv TEDUNG",
    "qRA REPAx TEDUNGqLA LENGAy TEDUNGqEKARAq%AIq%Ov TEDUNGqKAs MAHAPRANAqGAs GORAqNGAqCAs LACAqJAs JERAqNYAqTA LATIK",
    "tMURDA MAHAPRANAq(DA MURDA ALPz(MAHqNA RAMBATqTAs TAWAqDAs MADUqNAqPAs KAPALqBAs KEMBANGqMAqYAqRAqLAqWAqSA SAGA",
    "vPArAqHAjSIGN REREKANjVOWEL SIGN TEDUNGuULUx SARIuSUKUy ILUTuRA REPAzc TEDUNGuLA LENGAzd TEDUNGu#TALIzG REPA",
    "zcTEDUNGz)G REPAuPEPETz TEDUNGjADEG ADEGjLETTER KAF SASAKr(HOTq(TZIRq(EFq(VEq(ZALq(ASYURArRCHAIC JNYA___",
    "jDIGIT ZEROpONEpTWOqHREEpFOURqIVEpSIXqEVENpEIGHTpNINEjPANTIlMADAjWINDUjCARIK PAMUNGKAHpSIKIpPARERENjPAMENENG",
    "j#MUSICAL SYMBOL DOz#Ez#Uz#Az$ANG SURz#Iz#AEz#EUz#AIzANG GEDEyCOMBINING TEGEHzjENDEPzjKEMPULznLIzjJEGOGAN",
    "zi* KEMPUL WITHzn;LIzjBENDEzjGONGyRIGHT-HAND OPEN DUGzqAGzkCLOSED TUKzsAKyLEFT-HAND OPEN PANGzp#UzjCLOSED PLAK",
    "zsUKzjOPEN PINGj#PANTI LANTAl*MADA_aSUNDANESE SIGN PANYECEKsGLAYARtWISADkLETTER ArIrUrAErOrEsUrKArQArGAr#NrCArJA",
    "rZArNYArTArDArNArPArFArVArBArMArYArRArLArWArSArXArHAkCONSONANT SIGN PAMINGKALzcNYAKRAzeIKUkVOWEL SIGN PANGHULU",
    "yYUKUyAELAENGy#OLOxMEPETxNEULEUNGkSIGN PAMAAEHpVIRAMAk#CONSONANT SIGN PASANGAN zjWAkLETTER KHArSYAkDIGIT ZERO",
    "qONEqTWOrHREEqFOURrIVEqSIXrEVENqEIGHTqNINEkAVAGRAHAkLETTER REUr#LrBHArFINAL KxMaBATAK LETTER Am# SIMALUNGUNnHA",
    "m$ SIMALUNGUNn$MANDAILINGnBAm$ KAROnPAm$ SIMALUNGUNnNAm$ MANDAILINGnWAm$ SIMALUNGUNn$PAKPAKnGAm$ SIMALUNGUNnJA",
    "nDAnRAm$ SIMALUNGUNnMAm$ SIMALUNGUNoOUTHERN TAn*NORnSAm$ SIMALUNGUNn$MANDAILINGnYAm$ SIMALUNGUNnNGAnLA",
    "m$ SIMALUNGUNnNYAnCAnNDAnMBAnInUgSIGN TOMPIgVOWEL SIGN Eq# PAKPAKrEErIq# KAROrOq# KAROrUs FOR SIMALUNGUN SA",
    "gCONSONANT SIGN NGvHgPANGOLATjONGONAN________gSYMBOL BINDU NA METEKtPINARBORAStJUDULtPANGOLATaLEPCHA LETTER KA",
    "pLApHAoGApLAoNGAoCApHAoJAoNYAoTApHAoDAoNAoPApLApHAoFApLAoBApLAoMApLAoTSAqHAoDZAoYAoRAoLAoHApLAoVAoSApHAoWAoA",
    "hSUBJOINED LETTER YAyRAhVOWEL SIGN AAsIsOtOsUtUsEhCONSONANT SIGN KwMwLwNwPwRwTwNYIN-DOwKANGhSIGN RANmNUKTA___",
    "hPUNCTUATION TA-ROLs) NYET THYOOMtCER-WAs) TSHOOKyKhDIGIT ZEROnONEnTWOoHREEnFOURoIVEnSIXoEVENnEIGHTnNINE___",
    "hLETTER TTAqHAoDDAaOL CHIKI DIGIT ZEROpONEpTWOqHREEpFOURqIVEpSIXqEVENpEIGHTpNINEjLETTER LAqATrGrNGrLqLAAqAAKsJsM",
    "sWqLIqISrHrNYrRqLUqUC~rNNrYqLEqEPrDDrNrRRqLOqOTTrBrVrHjMU TTUDDAGj#GAAHLAA TTUDDAj>MU-jRELAAj#PHAARKjAHAD",
    "j#PUNCTUATION MUCAu) DOUBLEaCYRILLIC SMALL LETTER ROUNDED VEwLONG-LEGGED DEwNARROW OwWIDE ESwTALL TE",
    "x$HREE-LEGGEDxALL HARD SIGNzcYATwUNBLENDED UK_______aGEORGIAN MTAVRULI CAPITAL LETTER ANzi#Bzi#GziDONziENziVIN",
    "ziZENziTANziINziKANziLASziMANziNARziONziPARzi#ZHziRAEziSANziTARziUNziPHARzi$KziGHANziQARziSHINzi$CzjANziJILzi#C",
    "zjHARziXANzi#JHziHAEzjEzjIEziWEziHARzjOEziFIziYNziELIFIziTURNED GANziAIN__zjENziHARD SIGNzi&LABIAL",
    "aSUNDANESE PUNCTUATION BINDU SURYAzdPANGLONGzeURNAMAzdCAKRAzdLEU SATANGAzd*KAzd+Dzd+B________",
    "aVEDIC TONE KARSHANAlSHARAlPRENKHAgSIGN NIHSHVASAlYAJURVEDIC MIDLINE SVARITA",
    "g*TONE YAJURVEDIC AGGRAVATED INDEPENDENTv]v] KATHAKAlCANDRA BELOW",
    "lYAJURVEDIC KATHAKA INDEPENDENT SVARITA SCHROEDERlDOUBLE SVARITAl,TRIPl#KATHAKA ANUDATlDOT BELOWl(TWO DOTSm.HREE",
    "lRIGVEDIC KASHMIRI INDEPENDENT SVARITAl]ATHARVAVEDICg*SIGN VISARGAt#UDATk= REVERSEDl(VISARGA ANk? REVERSED",
    "lVISARGA UDATTA WITH TAILt>ANlANUSVARA ANTARGOMUKHAu*BAHIu)VAMAzg WITH TAILlTIRYAKlHEXIFORM LONG ANUSVARAk<",
    "k< RTHANGlANUSVARA UBHAYATO MUKHAmRDHAVISARGAk; ROTATEDgTONE CANDRA ABOVEgSIGN JIHVAMULIYAl$UPADHMANlATIKRAMA",
    "gTONE RING ABOVEj:E DOUBLgSIGN DOUBLE ANUSVARA ANTARGOMUKHA_____aLATIN LETTER SMALL CAPITAL AzdE",
    "g$SMALL LETTER TURNEDgLETTER SMALL CAPITAL BARRED BzcC~zcETHzcEg#SMALL LETTER TURNED OPENz I",
    "gLETTER SMALL CAPITAL J~zcL WITH STROKEzcMzcREVERSED NzcOzdPEN Og#SMALL LETTER SIDEWAYSzePEN Oze WITH STROKE",
    "tTURNED OEgLETTER SMALL CAPITAL OUgSMALL LETTER TOP HALF Ot)BOTTOMgLETTER SMALL CAPITAL PzcREVERSED Rzc%TURNzcT~",
    "g#SMALL LETTER SIDEWAYSzc# DIAERESIZEDzdTURNED MgLETTER SMALL CAPITAL V~zcZzcEZHnVOICED LARYNGEAL SPIRANTnAIN",
    "aGREEK LETTER SMALL CAPITAL GAMMAzcLAMDAzcPIzcRHOzcPSIaCYRILLIC LETTER SMALL CAPITAL EL",
    "aMODIFIER LETTER CAPITAL AzEyBzARRED ByD~x# REVERSEDyG~~~~~~~x# REVERSEDyOzUyPyRyT~yWqSMALL Av# TURNEDwALPHA",
    "wTURNED AEwBwD~wSCHWAwOPEN Ev) TURNEDwGwTURNED IwKwMwENGwOxPEN Ow#TOP HALFw)BOTTOMwPwT~v# SIDEWAYSwTURNED MwV",
    "wAINwBETAwGREEK GAMMAwDELTAwGREEK PHIw#CaLATIN SUBSCRIPT SMALL LETTER IzeRzeU~aGREEK SUBSCRIPT SMALL LETTER BETA",
    "zeGAMMAzeRHOzePHIze#CaLATIN SMALL LETTER UEtB WITH MIDDLE TILDEt@Dt@Ft@Mt@Nt@Pt@Rz; FISHHOOK ANDt;S WITHt@Tt@Z",
    "tTURNED GaMODIFIER LETTER CYRILLIC ENaLATIN SMALL LETTER INSULAR GtTH WITH STRIKETHROUGH",
    "mCAPITAL LETTER I WITH STROKEm:LETTER IOTAt:Pm:CAPITAL LETTER Um:LETTER UPSILONtB WITH PALATAL HOOKt@Dt@Ft@Gt@K",
    "t@Lt@Mt@Nt@Pt@Rt@St@ESHt@Vt@Xt@Zt&A WITH RETROFLEXt^ALPHtD WITH HOOK AND TAILtE WITH RETROFLEX HOOKs| OPEN",
    "s|& REVERSEDt]SCHWAt]It]OPEN Ot]ESHt]Ut]EZHaMODIFIER LETTER SMALL TURNED ALPHAwCx WITH CURLwETHwREVERSED OPEN E",
    "wFwDOTLESS J WITH STROKEwSCRIPT GwTURNED HwI WITH STROKExOTAwCAPITAL Izg WITH STROKEwJ WITH CROSSED-TAIL",
    "wL WITH RETROFLEX HOOKze&PALATALwCAPITAL LwM WITH HOOKwTURNED M WITH LONG LEGwN WITH LEFT HOOKze&RETROFLEX",
    "wCAPITAL NwBARRED OwPHIwS WITH HOOKwESHwT WITH PALATAL HOOKwU BARxPSILONwCAPITAL UwV WITH HOOKwTURNED VwZ",
    "x WITH RETROFLEX HOOKzeCURLwEZHwTHETAaCOMBINING DOTTED GRAVE ACCENTr*ACUTkSNAKE BELOWlUSPENSION MARK",
    "kMACRON-ACUTEkGRAVE-MACRONkMACRON-GRAVEkACUTE-MACRONkGRAVE-ACUTE-GRAVEkACUTE-GRAVE-ACUTE",
    "kLATIN SMALL LETTER R BELOWkBREVE-MACRONkMACRON-BREVEk#DOUBLE CIRCUMFLEX ABOk(OGONEKkZIGZAG BELOWk(ISkUR ABOVE",
    "l(Sk(LATIN SMALL LETTER FLATTENED OPEN AzeAEzfOzfVzeC CEDILLAzeINSULAR DzeETHzeGq#LETTER SMALL CAPITAL",
    "qSMALL LETTER K~q#LETTER SMALL CAPITAL~qSMALL LETTER Nq#LETTER SMALL CAPITALzmRqSMALL LETTER R ROTUNDAzeS",
    "zd# LONGzeZzeALPHAzeBzfETAzeSCHWAzeFzeL WITH DOUBLE MIDDLE TILDEzeO WITH LIGHT CENTRALIZATION STROKEzePzeESH",
    "zeU WITH LIGHT CENTRALIZATION STROKEzeWzeA WITH DIAERESISze=Oze=UkUP TACK ABOVEkKAVYKA ABOVE RIGHTxLEFTk.DOT",
    "kWIDE INVERTED BRIDGE BELOWkDOT BELOW LEFTlELETION MARKlOUBLE INVERTED BREVE BELOWk(ALMOST EQUAL TO",
    "kLEFT ARROWHEAD ABOVEkRIGHT ARROWHEAD AND DOWN ARROWHEAD BELOWa(LATIN CAPITAL LETTER A WITH RINGg|%SMAL",
    "gCAPITAL LETTER B WITH DOT ABOVEg|$SMALgCAPITAL LETTER B WITH DOT BELOWg|$SMALg(CAPITAL LETTER B WITH LINE",
    "g|%SMALgCAPITAL LETTER C WITH CEDILLA AND ACUTEg|.SMALgCAPITAL LETTER D WITH DOT ABOVEg|$SMAL",
    "gCAPITAL LETTER D WITH DOT BELOWg|$SMALg(CAPITAL LETTER D WITH LINEg|%SMALgCAPITAL LETTER D WITH CEDILLAg|SMALL",
    "gCAPITAL LETTER D WITH CIRCUMFLEX BELOWg|,SMALgCAPITAL LETTER E WITH MACRON AND GRAVEg|,SMAL",
    "gCAPITAL LETTER E WITH MACRON AND ACUTEg|,SMALgCAPITAL LETTER E WITH CIRCUMFLEX BELOWg|,SMAL",
    "g(CAPITAL LETTER E WITH TILDEg|&SMALgCAPITAL LETTER E WITH CEDILLA AND BREVEg|.SMAL",
    "g#CAPITAL LETTER F WITH DOT ABOg|$SMALgCAPITAL LETTER G WITH MACRONg|SMALgCAPITAL LETTER H WITH DOT ABOVEg|$SMAL",
    "gCAPITAL LETTER H WITH DOT BELOWg|$SMALgCAPITAL LETTER H WITH DIAERESISg|$SMALgCAPITAL LETTER H WITH CEDILLA",
    "g|SMALLgCAPITAL LETTER H WITH BREVE BELOWg|&SMALg)CAPITAL LETTER I WITH TILDg|&SMAL",
    "gCAPITAL LETTER I WITH DIAERESIS AND ACUTEg|;SMALg(CAPITAL LETTER K WITHg^SMALgCAPITAL LETTER K WITH DOT BELOW",
    "g|$SMALg(CAPITAL LETTER K WITH LINEg|%SMALg(CAPITAL LETTER L WITH DOTg|$SMAL",
    "gCAPITAL LETTER L WITH DOT BELOW AND MACRONg|<SMALgCAPITAL LETTER L WITH LINE BELOWg|%SMAL",
    "g(CAPITAL LETTER L WITH CIRCUMFLEXg|,SMALgCAPITAL LETTER M WITH ACUTEg^SMALgCAPITAL LETTER M WITH DOT ABOVE",
    "g|$SMALgCAPITAL LETTER M WITH DOT BELOWg|$SMALgCAPITAL LETTER N WITH DOT ABOVEg|$SMAL",
    "gCAPITAL LETTER N WITH DOT BELOWg|$SMALg(CAPITAL LETTER N WITH LINEg|%SMALg(CAPITAL LETTER N WITH CIRCUMFLEX",
    "g|,SMALgCAPITAL LETTER O WITH TILDE AND ACUTEg|+SMALgCAPITAL LETTER O WITH TILDE AND DIAERESISg|;SMAL",
    "gCAPITAL LETTER O WITH MACRON AND GRAVEg|,SMALgCAPITAL LETTER O WITH MACRON AND ACUTEg|,SMAL",
    "g(CAPITAL LETTER P WITHg^SMALgCAPITAL LETTER P WITH DOT ABOVEg|$SMALg=CAPITAL LETTER Rg|$SMAL",
    "gCAPITAL LETTER R WITH DOT BELOWg|$SMALgCAPITAL LETTER R WITH DOT BELOW AND MACRONg|<SMAL",
    "gCAPITAL LETTER R WITH LINE BELOWg|%SMALgCAPITAL LETTER S WITH DOT ABOVEg|$SMALgCAPITAL LETTER S WITH DOT BELOW",
    "g|$SMALgCAPITAL LETTER S WITH ACUTE AND DOT ABOVEg|;SMALg<CAPITAL LETTER S WITH CARONg|;SMAL",
    "g<CAPITAL LETTER S WITH DOT BELOWg|?SMALg,CAPITAL LETTER T WITHg|$SMALgCAPITAL LETTER T WITH DOT BELOWg|$SMAL",
    "g(CAPITAL LETTER T WITH LINEg|%SMALg(CAPITAL LETTER T WITH CIRCUMFLEXg|,SMALg(CAPITAL LETTER U WITH DIAERESIS",
    "g|+SMALg(CAPITAL LETTER U WITH TILDEg|&SMALg(CAPITAL LETTER U WITH CIRCUMFLEXg|,SMAL",
    "gCAPITAL LETTER U WITH TILDE AND ACUTEg|+SMALgCAPITAL LETTER U WITH MACRON AND DIAERESISg|<SMAL",
    "gCAPITAL LETTER V WITH TILDEg^SMALgCAPITAL LETTER V WITH DOT BELOWg|$SMALgCAPITAL LETTER W WITH GRAVEg^SMAL",
    "gCAPITAL LETTER W WITH ACUTEg^SMALgCAPITAL LETTER W WITH DIAERESISg|$SMALgCAPITAL LETTER W WITH DOT ABOVEg|$SMAL",
    "gCAPITAL LETTER W WITH DOT BELOWg|$SMALgCAPITAL LETTER X WITH DOT ABOVEg|$SMALgCAPITAL LETTER X WITH DIAERESIS",
    "g|$SMALgCAPITAL LETTER Y WITH DOT ABOVEg|$SMALgCAPITAL LETTER Z WITH CIRCUMFLEXg|%SMAL",
    "gCAPITAL LETTER Z WITH DOT BELOWg|$SMALg(CAPITAL LETTER Z WITH LINEg|%SMALt>HtT WITH DIAERESIStW WITH RING ABOVE",
    "t>YtA WITH RIGHT HALF RINGtLONG S WITH DOT ABOVEzhIAGONAL STROKEzg)HIGHgCAPITAL LETTER SHARP S",
    "gSMALL LETTER DELTAgCAPITAL LETTER A WITH DOT BELOWg|$SMALgCAPITAL LETTER A WITH HOOK ABOVEg|%SMAL",
    "gCAPITAL LETTER A WITH CIRCUMFLEX AND ACUTEg|<SMALgCAPITAL LETTER A WITH CIRCUMFLEX AND GRAVEg|<SMAL",
    "g#CAPITAL LETTER A WITH CIRCUMFLEX AND HOOK ABOg|[SMALgCAPITAL LETTER A WITH CIRCUMFLEX AND TILDEg|<SMAL",
    "gCAPITAL LETTER A WITH CIRCUMFLEX AND DOT BELOWg|@SMALgCAPITAL LETTER A WITH BREVE AND ACUTEg|+SMAL",
    "gCAPITAL LETTER A WITH BREVE AND GRAVEg|+SMALg#CAPITAL LETTER A WITH BREVE AND HOOK ABOg|<SMAL",
    "gCAPITAL LETTER A WITH BREVE AND TILDEg|+SMALgCAPITAL LETTER A WITH BREVE AND DOT BELOWg|;SMAL",
    "g,CAPITAL LETTER E WITHg|$SMALgCAPITAL LETTER E WITH HOOK ABOVEg|%SMALgCAPITAL LETTER E WITH TILDEg^SMAL",
    "gCAPITAL LETTER E WITH CIRCUMFLEX AND ACUTEg|<SMALgCAPITAL LETTER E WITH CIRCUMFLEX AND GRAVEg|<SMAL",
    "g#CAPITAL LETTER E WITH CIRCUMFLEX AND HOOK ABOg|[SMALgCAPITAL LETTER E WITH CIRCUMFLEX AND TILDEg|<SMAL",
    "gCAPITAL LETTER E WITH CIRCUMFLEX AND DOT BELOWg|@SMALgCAPITAL LETTER I WITH HOOK ABOVEg|%SMAL",
    "gCAPITAL LETTER I WITH DOT BELOWg|$SMALg=CAPITAL LETTER Og|$SMALgCAPITAL LETTER O WITH HOOK ABOVEg|%SMAL",
    "gCAPITAL LETTER O WITH CIRCUMFLEX AND ACUTEg|<SMALgCAPITAL LETTER O WITH CIRCUMFLEX AND GRAVEg|<SMAL",
    "g#CAPITAL LETTER O WITH CIRCUMFLEX AND HOOK ABOg|[SMALgCAPITAL LETTER O WITH CIRCUMFLEX AND TILDEg|<SMAL",
    "gCAPITAL LETTER O WITH CIRCUMFLEX AND DOT BELOWg|@SMALgCAPITAL LETTER O WITH HORN AND ACUTEg|*SMAL",
    "gCAPITAL LETTER O WITH HORN AND GRAVEg|*SMALg#CAPITAL LETTER O WITH HORN AND HOOK ABOg|;SMAL",
    "gCAPITAL LETTER O WITH HORN AND TILDEg|*SMALgCAPITAL LETTER O WITH HORN AND DOT BELOWg|:SMAL",
    "g,CAPITAL LETTER U WITHg|$SMALgCAPITAL LETTER U WITH HOOK ABOVEg|%SMALgCAPITAL LETTER U WITH HORN AND ACUTE",
    "g|*SMALgCAPITAL LETTER U WITH HORN AND GRAVEg|*SMALg#CAPITAL LETTER U WITH HORN AND HOOK ABOg|;SMAL",
    "gCAPITAL LETTER U WITH HORN AND TILDEg|*SMALgCAPITAL LETTER U WITH HORN AND DOT BELOWg|:SMAL",
    "gCAPITAL LETTER Y WITH GRAVEg^SMALgCAPITAL LETTER Y WITH DOT BELOWg|$SMALgCAPITAL LETTER Y WITH HOOK ABOVE",
    "g|%SMALgCAPITAL LETTER Y WITH TILDEg^SMALgCAPITAL LETTER MIDDLE-WELSH LLg|#SMALgCAPITAL LETTER MIDDLE-WELSH V",
    "g|SMALLgCAPITAL LETTER Y WITH LOOPg]SMALaGREEK SMALL LETTER ALPHA WITH PSILIzfDASIAzf#PSILI AND VARzf,DASIA",
    "zf#PSILI AND OXzf+DASIAzfPSILI AND PERISPOMENIzf>DASIAgCAPITAL LETTER ALPHA WITH PSILIzhDASIAzh#PSILI AND VAR",
    "zh,DASIAzh#PSILI AND OXzh+DASIAzhPSILI AND PERISPOMENIzh>DASIAgSMALL LETTER EPSILON WITH PSILIzhDASIA",
    "zh#PSILI AND VARzh,DASIAzh#PSILI AND OXzh+DASIA__gCAPITAL LETTER EPSILON WITH PSILIzjDASIAzj#PSILI AND VAR",
    "zj,DASIAzj#PSILI AND OXzj+DASIA__gSMALL LETTER ETA WITH PSILIzdDASIAzd#PSILI AND VARzd,DASIAzd#PSILI AND OX",
    "zd+DASIAzdPSILI AND PERISPOMENIzd>DASIAgCAPITAL LETTER ETA WITH PSILIzfDASIAzf#PSILI AND VARzf,DASIA",
    "zf#PSILI AND OXzf+DASIAzfPSILI AND PERISPOMENIzf>DASIAgSMALL LETTER IOTA WITH PSILIzeDASIAze#PSILI AND VAR",
    "ze,DASIAze#PSILI AND OXze+DASIAzePSILI AND PERISPOMENIze>DASIAgCAPITAL LETTER IOTA WITH PSILIzgDASIA",
    "zg#PSILI AND VARzg,DASIAzg#PSILI AND OXzg+DASIAzgPSILI AND PERISPOMENIzg>DASIAgSMALL LETTER OMICRON WITH PSILI",
    "zhDASIAzh#PSILI AND VARzh,DASIAzh#PSILI AND OXzh+DASIA__gCAPITAL LETTER OMICRON WITH PSILIzjDASIA",
    "zj#PSILI AND VARzj,DASIAzj#PSILI AND OXzj+DASIA__gSMALL LETTER UPSILON WITH PSILIzhDASIAzh#PSILI AND VARzh,DASIA",
    "zh#PSILI AND OXzh+DASIAzhPSILI AND PERISPOMENIzh>DASIA_gCAPITAL LETTER UPSILON WITH DASIA_zo AND VARIA_zt#OX_",
    "ztPERISPOMENIgSMALL LETTER OMEGA WITH PSILIzfDASIAzf#PSILI AND VARzf,DASIAzf#PSILI AND OXzf+DASIA",
    "zfPSILI AND PERISPOMENIzf>DASIAgCAPITAL LETTER OMEGA WITH PSILIzhDASIAzh#PSILI AND VARzh,DASIAzh#PSILI AND OX",
    "zh+DASIAzhPSILI AND PERISPOMENIzh>DASIAgSMALL LETTER ALPHA WITH VARIAzf#OXt#EPSILON WITH VARzh#OXu#TA WITH VAR",
    "zd#OXt#IOTA WITH VARze#OXt#OMICRON WITH VARzh#OXt#UPSILON WITH VARzh#OXt#OMEGA WITH VARzf#OX__",
    "tALPHA WITH PSILI AND YPOGEGRAMMENIzf@DASIAzf]PSILI AND VARzf|(DASIAzf]PSILI AND OXzf|&DASIA",
    "zf@PSILI AND PERISPOMENIzf|:DASIAg,CAPITAL LETTER ALPHA WITH PSILI AND PROSzh[DASIAzh^PSILI AND VARzh|)DASIA",
    "zh^PSILI AND OXzh|(DASIAzh[PSILI AND PERISPOMENIzh|;DASIAg,SMALL LETTER ETA WITH PSILI AND YPOzd@DASIA",
    "zd]PSILI AND VARzd|(DASIAzd]PSILI AND OXzd|&DASIAzd@PSILI AND PERISPOMENIzd|:DASIA",
    "g,CAPITAL LETTER ETA WITH PSILI AND PROSzf[DASIAzf^PSILI AND VARzf|)DASIAzf^PSILI AND OXzf|(DASIA",
    "zf[PSILI AND PERISPOMENIzf|;DASIAg,SMALL LETTER OMEGA WITH PSILI AND YPOzf@DASIAzf]PSILI AND VARzf|(DASIA",
    "zf]PSILI AND OXzf|&DASIAzf@PSILI AND PERISPOMENIzf|:DASIAg,CAPITAL LETTER OMEGA WITH PSILI AND PROSzh[DASIA",
    "zh^PSILI AND VARzh|)DASIAzh^PSILI AND OXzh|(DASIAzh[PSILI AND PERISPOMENIzh|;DASIA",
    "gSMALL LETTER ALPHA WITH VRACHYzfMACRONzfVARIA AND YPOGEGRAMMENIze<ze< OXIA AND_zf%PERISPOzq AND YPOGEGRAMMENI",
    "gCAPITAL LETTER ALPHA WITH VRACHYzhMACRONzhVARIAzh#OXzhPROSGEGRAMMENIgKORONISgPROSGEGRAMMENIhSILIhERISPOMENI",
    "f: DIALYTIKA ANDg%SMALL LETTER ETA WITH VARIA AND YPOGEGRAMzc<zc< OXIA AND_zd%PERISPOzo AND YPOGEGRAMMENI",
    "gCAPITAL LETTER EPSILON WITH VARIAzj#OXw#TA WITH VARzf#OXzfPROSGEGRAMMENIgPSILI AND VARIAq#OXqPERISPOMENI",
    "gSMALL LETTER IOTA WITH VRACHYzeMACRONzeDIALYTIKA AND VARIAzs#OX__zePERISPOMENIzd: DIALYTIKA AND",
    "gCAPITAL LETTER IOTA WITH VRACHYzgMACRONzgVARIAzg#OX_g#DASIA AND VARq#OXqPERISPOMENI",
    "gSMALL LETTER UPSILON WITH VRACHYzhMACRONzhDIALYTIKA AND VARIAzv#OXtRHO WITH PSILIzdDASIA",
    "tUPSILON WITH PERISPOMENIzg: DIALYTIKA ANDgCAPITAL LETTER UPSILON WITH VRACHYzjMACRONzjVARIAzj#OXv#RHO WITH DAS",
    "g#DIALYTIKA AND VARu#OXg#VAR__gSMALL LETTER OMEGA WITH VARIA AND YPOGEGRAMMENIze<ze< OXIA AND_zf%PERISPO",
    "zq AND YPOGEGRAMMENIgCAPITAL LETTER OMICRON WITH VARIAzj#OXx#EGA WITH VARzh#OXzhPROSGEGRAMMENIgOXIAg#DAS"])]

end FlowSketch.TextNameAlphabets
